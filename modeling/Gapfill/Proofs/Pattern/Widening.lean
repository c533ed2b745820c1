import Mathlib.Data.List.Forall2
import Gapfill.Proofs.Pattern.Reading

/-!
# Readers that allow more

`Reader.Wider` compares two readers that stand in front of the same text with the
same switches: group by group, what the second has read matches all that the
first has. The items of a group are compared as a sequence, not one by one, so
that one item of the first reader may stand for several of the second.

The next moves keep the comparison (`Wider.move?`), and so do runs
(`Reads.wider`). There is one exception, and it is the reason for this module. A
sign of repetition takes the last item alone. Where that is only a part of what
stands for the last item of the first reader, the comparison is lost. So a
repetition needs `Frame.LastWider`, which every move makes true.
-/

namespace Gapfill.Pattern

/-- Every word of the one sequence is a word of the other. -/
def WidensAll (rs rs' : List Regex) : Prop :=
  ∀ b w n, Regex.MatchesAll rs b w n → Regex.MatchesAll rs' b w n

namespace WidensAll

variable {rs rs' ss ss' : List Regex} {r r' : Regex}

theorem refl (rs : List Regex) : WidensAll rs rs := fun _ _ _ => id

theorem append (h : WidensAll rs rs') (h' : WidensAll ss ss') :
    WidensAll (rs ++ ss) (rs' ++ ss') := by
  intro b w n hw
  exact (Regex.matchesAll_append rs' ss').mpr
    (Language.Sub.cat (h _ _ _) (h' _ _ _) ((Regex.matchesAll_append rs ss).mp hw))

theorem single (h : r.Widens r') : WidensAll [r] [r'] :=
  fun _ _ _ hw => Language.Sub.cat h (Language.Sub.refl _) hw

theorem catOf (h : WidensAll rs rs') : (Regex.catOf rs).Widens (Regex.catOf rs') := by
  intro b w n hw
  exact (Regex.catOf_matches rs').mpr (h b w n ((Regex.catOf_matches rs).mp hw))

end WidensAll

/-- The expressions of the items, which stand last first, in the order of the text. -/
def Item.regexes (items : List Item) : List Regex := items.reverse.filterMap Item.regex?

theorem Item.regexes_append (items items' : List Item) :
    Item.regexes (items ++ items') = Item.regexes items' ++ Item.regexes items := by
  simp [Item.regexes]

theorem Item.regexes_cons (item : Item) (items : List Item) :
    Item.regexes (item :: items) = Item.regexes items ++ item.regex?.toList := by
  cases item <;> simp [Item.regexes, Item.regex?]

/-! ## Groups -/

namespace Frame

/-- What has been read of a group matches all that has been read of another. -/
structure Wider (frame frame' : Frame) : Prop where
  branches : List.Forall₂ (fun p p' => p.regex.Widens p'.regex) frame.branches frame'.branches
  items : WidensAll (Item.regexes frame.items) (Item.regexes frame'.items)

/-- If the last item can be repeated, one item stands for it. -/
def LastWider (frame frame' : Frame) : Prop :=
  ∀ p items, frame.items = .piece p :: items →
    ∃ p' items', frame'.items = .piece p' :: items' ∧ p.regex.Widens p'.regex
      ∧ WidensAll (Item.regexes items) (Item.regexes items')

variable {frame frame' : Frame}

theorem Wider.new : Wider .new .new := ⟨.nil, .refl []⟩

theorem LastWider.of_nil (h : frame.items = []) : LastWider frame frame' := by
  intro p items heq
  simp [h] at heq

theorem Wider.push (h : Wider frame frame') (item : Item) :
    Wider (frame.push item) (frame'.push item) := by
  refine ⟨h.branches, ?_⟩
  simp only [Frame.push, Item.regexes_cons]
  exact h.items.append (.refl _)

theorem Wider.pushPiece (h : Wider frame frame') (p p' : Piece) (hp : p.regex.Widens p'.regex) :
    Wider (frame.push (.piece p)) (frame'.push (.piece p'))
      ∧ LastWider (frame.push (.piece p)) (frame'.push (.piece p')) := by
  constructor
  · refine ⟨h.branches, ?_⟩
    simp only [Frame.push, Item.regexes_cons]
    exact h.items.append (.single hp)
  · intro q items heq
    obtain ⟨hq, rfl⟩ := List.cons.inj heq
    obtain rfl := Item.piece.inj hq
    exact ⟨p', _, rfl, hp, h.items⟩

theorem Wider.lastPush (h : Wider frame frame') : ∀ (item : Item),
    LastWider (frame.push item) (frame'.push item)
  | .piece p => (h.pushPiece p p (Regex.Widens.refl _)).2
  | .switch => fun p items heq => by simp [Frame.push] at heq

theorem Wider.branch (h : Wider frame frame') :
    frame.branch.regex.Widens frame'.branch.regex := h.items.catOf

private theorem exists_wider {ps ps' : List Piece}
    (h : List.Forall₂ (fun p p' => p.regex.Widens p'.regex) ps ps') :
    ∀ p ∈ ps, ∃ p' ∈ ps', p.regex.Widens p'.regex := by
  induction h with
  | nil => simp
  | cons hp _ ih =>
      refine List.forall_mem_cons.mpr ⟨⟨_, List.mem_cons_self, hp⟩, fun p hmem => ?_⟩
      obtain ⟨p', hmem', hwidens⟩ := ih p hmem
      exact ⟨p', List.mem_cons_of_mem _ hmem', hwidens⟩

theorem Wider.total (h : Wider frame frame') : frame.total.regex.Widens frame'.total.regex := by
  have hbranches := h.branches
  unfold Frame.total
  cases hps : frame.branches with
  | nil =>
      cases hps' : frame'.branches with
      | nil =>
          intro b w n hw
          exact h.branch hw
      | cons => simp [hps, hps'] at hbranches
  | cons p ps =>
      cases hps' : frame'.branches with
      | nil => simp [hps, hps'] at hbranches
      | cons p' ps' =>
          rw [hps, hps'] at hbranches
          intro b w n hw
          obtain ⟨r, hr, hmatch⟩ := (Regex.altOf_matches (by simp)).mp hw
          obtain ⟨q, hq, rfl⟩ := List.mem_map.mp hr
          obtain ⟨q', hq', hwidens⟩ := exists_wider (.cons h.branch hbranches) q
            (List.mem_reverse.mp hq)
          exact (Regex.altOf_matches (by simp)).mpr
            ⟨q'.regex, List.mem_map_of_mem (List.mem_reverse.mpr hq'), hwidens hmatch⟩

theorem Wider.repeatLast? {min : Nat} {max : Option Nat} {next : Frame} (h : Wider frame frame')
    (hlast : LastWider frame frame') (hr : frame.repeatLast? min max = some next) :
    ∃ next', frame'.repeatLast? min max = some next' ∧ Wider next next' ∧ LastWider next next' := by
  unfold Frame.repeatLast? at hr
  split at hr
  · rename_i p items hitems
    obtain rfl := Option.some.inj hr
    obtain ⟨p', items', hitems', hp, hrest⟩ := hlast p items hitems
    have hshorter : Wider ⟨frame.branches, items⟩ ⟨frame'.branches, items'⟩ := ⟨h.branches, hrest⟩
    obtain ⟨hwider, hlast'⟩ := hshorter.pushPiece ⟨.rep p.regex min max, p.depth + 1⟩
      ⟨.rep p'.regex min max, p'.depth + 1⟩ (hp.rep min max)
    refine ⟨_, ?_, hwider, hlast'⟩
    unfold Frame.repeatLast?
    rw [hitems']
    rfl
  · simp at hr

end Frame

/-! ## Readers -/

namespace Reader

/-- Two readers with the same switches and names, where the second has in every open group read
what matches all that the first has. -/
structure Wider (r r' : Reader) : Prop where
  flags : r'.flags = r.flags
  names : r'.names = r.names
  frame : r.frame.Wider r'.frame
  outer : List.Forall₂ (fun a a' => a'.1 = a.1 ∧ a.2.Wider a'.2) r.outer r'.outer

variable {r r' r₁ r₁' : Reader}

theorem Wider.start (ignoreCase dotNewline : Bool) :
    Wider (.start ignoreCase dotNewline) (.start ignoreCase dotNewline) :=
  ⟨rfl, rfl, .new, .nil⟩

/-- The same move can be made, and the comparison is kept. -/
theorem Wider.move? {m : Move} (h : Wider r r')
    (hlast : ∀ min max, m = .repeatLast min max → r.frame.LastWider r'.frame)
    (hr : r.move? m = some r₁) :
    ∃ r₁', r'.move? m = some r₁' ∧ Wider r₁ r₁' ∧ r₁.frame.LastWider r₁'.frame := by
  cases m with
  | push item flags =>
      obtain rfl := Option.some.inj hr
      exact ⟨_, rfl, ⟨rfl, h.names, h.frame.push item, h.outer⟩, h.frame.lastPush item⟩
  | openGroup flags names =>
      obtain rfl := Option.some.inj hr
      exact ⟨_, rfl, ⟨rfl, rfl, .new, .cons ⟨h.flags, h.frame⟩ h.outer⟩, .of_nil rfl⟩
  | closeGroup =>
      have houter := h.outer
      simp only [Reader.move?, closeGroup?] at hr ⊢
      cases hout : r.outer with
      | nil => simp [hout] at hr
      | cons a outer =>
          cases hout' : r'.outer with
          | nil => simp [hout, hout'] at houter
          | cons a' outer' =>
              rw [hout, hout'] at houter
              obtain ⟨⟨hflags, haround⟩, hrest⟩ := List.forall₂_cons.mp houter
              simp only [hout] at hr
              obtain rfl := Option.some.inj hr
              obtain ⟨hwider, hlast'⟩ := haround.pushPiece
                ⟨r.frame.total.regex, r.frame.total.depth + 1⟩
                ⟨r'.frame.total.regex, r'.frame.total.depth + 1⟩ h.frame.total
              exact ⟨_, rfl, ⟨hflags, h.names, hwider, hrest⟩, hlast'⟩
  | branch =>
      obtain rfl := Option.some.inj hr
      exact ⟨_, rfl, ⟨h.flags, h.names, ⟨.cons h.frame.branch h.frame.branches, .refl []⟩, h.outer⟩,
        .of_nil rfl⟩
  | repeatLast min max =>
      obtain ⟨frame, hframe, rfl⟩ := Option.map_eq_some_iff.mp hr
      obtain ⟨frame', hframe', hwider, hlast'⟩ :=
        h.frame.repeatLast? (hlast min max rfl) hframe
      refine ⟨{ r' with frame := frame' }, ?_, ⟨h.flags, h.names, hwider, h.outer⟩, hlast'⟩
      simp only [Reader.move?, hframe', Option.map_some]

end Reader

/-! ## Signs of repetition -/

/-- The signs that repeat what stands before them. -/
def repeatSigns : List Char := ['?', '*', '+', '\x7b']

/-- Nothing but a sign of repetition repeats the last item. -/
theorem nextMove_repeatLast {f : Flags} {names : List (List Char)} {c : Char} {s z : List Char}
    {min : Nat} {max : Option Nat} (h : nextMove f names c s = some (.repeatLast min max, z)) :
    c ∈ repeatSigns := by
  have hnamed : ∀ u, Move.named f names u ≠ some (.repeatLast min max, z) := by
    intro u
    unfold Move.named
    split
    · split <;> simp
    · simp
  unfold nextMove at h
  split at h
  case h_1 =>
      refine absurd h ?_
      unfold Move.group
      split
      · exact hnamed _
      · simp
      · simp
      · exact hnamed _
      · unfold Move.switches
        split <;> simp
      · simp
  case h_5 | h_6 | h_7 | h_8 => simp [repeatSigns]
  case h_12 =>
      split at h
      · simp [Move.add] at h
      · simp at h
  all_goals simp [Move.add] at h

namespace Reader

/-- The same text can be read, and the comparison is kept, unless a sign of repetition comes first
and takes a part of what stands for the last item. -/
theorem Reads.wider {r r₁ : Reader} {s z : List Char} (h : Reads r s r₁ z) :
    ∀ {r' : Reader}, Wider r r' →
      (r.frame.LastWider r'.frame ∨ ∀ c u, r.flags.skip s = c :: u → c ∉ repeatSigns) →
      ∃ r₁', Reads r' s r₁' z ∧ Wider r₁ r₁'
        ∧ (r₁.frame.LastWider r₁'.frame ∨ ∀ c u, r₁.flags.skip z = c :: u → c ∉ repeatSigns) := by
  induction h with
  | refl r s =>
      intro r' hwider hlast
      exact ⟨r', .refl _ _, hwider, hlast⟩
  | step hskip hstep _ ih =>
      intro r' hwider hlast
      obtain ⟨m, hm, hmove⟩ := step_eq_some.mp hstep
      obtain ⟨r₂', hmove', hwider', hlast'⟩ := hwider.move? (fun min max heq =>
        hlast.resolve_right fun hsigns => hsigns _ _ hskip (nextMove_repeatLast (heq ▸ hm))) hmove
      obtain ⟨r₁', hrest, hwider₁, hlast₁⟩ := ih hwider' (Or.inl hlast')
      rw [← hwider.flags] at hskip hm
      rw [← hwider.names] at hm
      exact ⟨r₁', .step hskip (step_eq_some.mpr ⟨m, hm, hmove'⟩) hrest, hwider₁, hlast₁⟩

end Reader

/-- A wider reader at the end of a text has a wider pattern. -/
theorem Denotes.of_wider {ignoreCase dotNewline : Bool} {text z : List Char} {r r' : Reader}
    (h : Reader.Reads (.start ignoreCase dotNewline) text r' z) (hwider : r.Wider r')
    (hend : r.flags.skip z = []) (houter : r.outer = []) :
    Denotes ignoreCase dotNewline text r'.frame.total
      ∧ r.frame.total.regex.Widens r'.frame.total.regex := by
  have houter' : r'.outer = [] := by
    have := hwider.outer
    rw [houter] at this
    exact List.forall₂_nil_left_iff.mp this
  exact ⟨⟨r', z, h, hwider.flags ▸ hend, houter', rfl⟩, hwider.frame.total⟩

end Gapfill.Pattern
