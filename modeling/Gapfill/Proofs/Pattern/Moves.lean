import Gapfill.Proofs.Pattern.Language
import Gapfill.Proofs.Pattern.Parts

/-!
# What one item does to the reader

A step of the reader is two things. The text, the switches and the names taken
tell which `Move` the item asks for (`nextMove`); they do not look at what has
been read before. The move is then made on the stack of open groups
(`Reader.move?`), and it does not look at the text. There are five moves, so
that a fact about the stack takes five cases, whatever can be written in a
pattern.
-/

namespace Gapfill.Pattern

/-! ## Moves -/

/-- What an item of a pattern asks of the reader. -/
inductive Move where
  /-- Adds an item, behind which the switches `flags` hold. -/
  | push (item : Item) (flags : Flags)
  /-- Opens a group in which the switches `flags` hold; `names` are the names taken then. -/
  | openGroup (flags : Flags) (names : List (List Char))
  | closeGroup
  /-- Begins the next alternative. -/
  | branch
  /-- Repeats the last item. -/
  | repeatLast (min : Nat) (max : Option Nat)

/-- The reader after a move, if it can be made. -/
def Reader.move? (r : Reader) : Move → Option Reader
  | .push item flags => some { r.push item with flags }
  | .openGroup flags names => some { r.openGroup flags with names }
  | .closeGroup => r.closeGroup?
  | .branch => some { r with frame := ⟨r.frame.branch :: r.frame.branches, []⟩ }
  | .repeatLast min max => (r.frame.repeatLast? min max).map fun frame => { r with frame }

namespace Move

/-- An expression in which nothing is nested. -/
def add (f : Flags) (regex : Regex) : Move := push (.piece (.flat regex)) f

/-- The move for a group with a name; the text begins with the name. -/
def named (f : Flags) (names : List (List Char)) (s : List Char) : Option (Move × List Char) :=
  match readName s with
  | some (name, rest) =>
    if names.contains name then none else some (openGroup f (name :: names), rest)
  | none => none

/-- The move for a group with switches, or for switches alone; the text begins behind `(?`. -/
def switches (f : Flags) (names : List (List Char)) (s : List Char) : Option (Move × List Char) :=
  match readSwitches [] true false f s with
  | some (flags, _, ':' :: rest) => some (openGroup flags names, rest)
  | some (_, true, _) => none
  | some (flags, false, _ :: rest) => some (push .switch flags, rest)
  | _ => none

/-- The move for what follows an opening parenthesis. -/
def group (f : Flags) (names : List (List Char)) (s : List Char) : Option (Move × List Char) :=
  match f.skip s with
  | '?' :: 'P' :: '<' :: rest => named f names rest
  | '?' :: '<' :: '=' :: _ => none
  | '?' :: '<' :: '!' :: _ => none
  | '?' :: '<' :: rest => named f names rest
  | '?' :: rest => switches f names rest
  | s => some (openGroup f names, s)

/-- The move for what follows a parenthesis, once blanks are dropped. -/
def groupAt (f : Flags) (names : List (List Char)) (s : List Char) :
    Option (Move × List Char) :=
  match after? ['?', 'P', '<'] s with
  | some rest => named f names rest
  | none =>
    match after? ['?', '<'] s with
    | some rest =>
      if after? ['='] rest = none ∧ after? ['!'] rest = none then named f names rest else none
    | none =>
      match after? ['?'] s with
      | some rest => switches f names rest
      | none => some (openGroup f names, s)

theorem group_eq (s : List Char) : group f names s = groupAt f names (f.skip s) := by
  unfold group
  generalize f.skip s = t
  split
  · rfl
  · rfl
  · rfl
  · rename_i rest hequal hbang
    have hassert : after? ['='] rest = none ∧ after? ['!'] rest = none :=
      ⟨after?_eq_none hequal, after?_eq_none hbang⟩
    exact (if_pos hassert).symm
  · rename_i rest hnamed _ _ hangle
    have h₁ : after? ['?', 'P', '<'] ('?' :: rest) = none :=
      after?_eq_none fun u hu => hnamed u (List.cons.inj hu).2
    have h₂ : after? ['?', '<'] ('?' :: rest) = none :=
      after?_eq_none fun u hu => hangle u (List.cons.inj hu).2
    rw [groupAt, h₁, h₂]
    rfl
  · rename_i hmark
    have h₁ : after? ['?', 'P', '<'] t = none := after?_eq_none fun u hu => hmark _ hu
    have h₂ : after? ['?', '<'] t = none := after?_eq_none fun u hu => hmark _ hu
    have h₃ : after? ['?'] t = none := after?_eq_none fun u hu => hmark _ hu
    rw [groupAt, h₁, h₂, h₃]

end Move

/-- The move that an item asks for, which begins with the character `c`, and the text after the
item. -/
def nextMove (f : Flags) (names : List (List Char)) (c : Char) (s : List Char) :
    Option (Move × List Char) :=
  match c with
  | '(' => Move.group f names s
  | ')' => some (.closeGroup, s)
  | '|' => some (.branch, s)
  | '[' =>
    (readSet f ((openSet f s).2.length + 1) (openSet f s).1 [] (openSet f s).2).map
      fun (piece, rest) => (.push (.piece ⟨.chars piece.set, piece.depth⟩) f, rest)
  | '?' => some (.repeatLast 0 (some 1), dropLazy s)
  | '*' => some (.repeatLast 0 none, dropLazy s)
  | '+' => some (.repeatLast 1 none, dropLazy s)
  | '\x7b' =>
    (readBounds f s).map fun (min, max, rest) => (.repeatLast min max, dropLazy (f.skip rest))
  | '.' => (dot? f).map fun regex => (.add f regex, s)
  | '^' => some (.add f (.look (startOf f)), s)
  | '$' => some (.add f (.look (endOf f)), s)
  | '\\' =>
    match readEscape f s with
    | some (escape, rest) => (escapeRegex? f escape).map fun regex => (.add f regex, rest)
    | none => none
  | c => some (.add f (literal f c), s)

theorem nextMove_backslash (f : Flags) (names : List (List Char)) (s : List Char) :
    nextMove f names '\\' s = (readEscape f s).bind fun (escape, rest) =>
      ((escapeRegex? f escape).map (Move.add f)).map (·, rest) := by
  unfold nextMove
  dsimp only
  rcases readEscape f s with _ | ⟨escape, rest⟩
  · rfl
  · dsimp only [Option.bind_some]
    rw [Option.map_map]
    rfl

namespace Reader

/-- The move is made, and the text behind the item is left. -/
def follow (r : Reader) (next : Option (Move × List Char)) : Option (Reader × List Char) :=
  next.bind fun (m, z) => (r.move? m).map (·, z)

theorem follow_eq_some {r r' : Reader} {next : Option (Move × List Char)} {z : List Char} :
    r.follow next = some (r', z) ↔ ∃ m, next = some (m, z) ∧ r.move? m = some r' := by
  unfold follow
  constructor
  · intro h
    obtain ⟨⟨m, u⟩, hm, h⟩ := Option.bind_eq_some_iff.mp h
    obtain ⟨r₁, hr, heq⟩ := Option.map_eq_some_iff.mp h
    obtain ⟨rfl, rfl⟩ := Prod.mk.inj heq
    exact ⟨m, hm, hr⟩
  · rintro ⟨m, rfl, hr⟩
    simp only [Option.bind_some, hr, Option.map_some]

/-- The start of a group with a name; the text begins with the name. -/
def openNamed (r : Reader) (s : List Char) : Option (Reader × List Char) :=
  match readName s with
  | some (name, rest) =>
    if r.names.contains name then none
    else some ({ r.openGroup r.flags with names := name :: r.names }, rest)
  | none => none

/-- The start of a group with switches, or the switches alone; the text begins behind `(?`. -/
def openSwitches (r : Reader) (s : List Char) : Option (Reader × List Char) :=
  match readSwitches [] true false r.flags s with
  | some (flags, _, ':' :: rest) => some (r.openGroup flags, rest)
  | some (_, true, _) => none
  | some (flags, false, _ :: rest) => some ({ r.push .switch with flags }, rest)
  | _ => none

theorem readGroup_eq (r : Reader) (s : List Char) :
    readGroup r s = match r.flags.skip s with
      | '?' :: 'P' :: '<' :: rest => r.openNamed rest
      | '?' :: '<' :: '=' :: _ => none
      | '?' :: '<' :: '!' :: _ => none
      | '?' :: '<' :: rest => r.openNamed rest
      | '?' :: rest => r.openSwitches rest
      | s => some (r.openGroup r.flags, s) := rfl

private theorem openNamed_eq (r : Reader) (s : List Char) :
    r.openNamed s = r.follow (Move.named r.flags r.names s) := by
  unfold openNamed Move.named
  rcases readName s with _ | ⟨name, rest⟩
  · rfl
  · dsimp only
    split <;> rfl

private theorem openSwitches_eq (r : Reader) (s : List Char) :
    r.openSwitches s = r.follow (Move.switches r.flags r.names s) := by
  unfold openSwitches Move.switches
  rcases readSwitches [] true false r.flags s with _ | ⟨flags, bare, _ | ⟨c, rest⟩⟩
  · rfl
  · cases bare <;> rfl
  · by_cases hc : c = ':'
    · subst hc
      rfl
    · cases bare <;> simp [hc] <;> rfl

private theorem readGroup_eq_follow (r : Reader) (s : List Char) :
    readGroup r s = r.follow (Move.group r.flags r.names s) := by
  rw [readGroup_eq]
  unfold Move.group
  have hopen : ∀ u, some (r.openGroup r.flags, u) =
      r.follow (some (.openGroup r.flags r.names, u)) := fun _ => rfl
  have hnone : none = r.follow none := rfl
  split <;> simp_all [openNamed_eq, openSwitches_eq]

/-- A step is the next move, made on the stack. -/
theorem step_eq_follow (r : Reader) (c : Char) (s : List Char) :
    r.step c s = r.follow (nextMove r.flags r.names c s) := by
  have hrepeat : ∀ (min : Nat) (max : Option Nat) (u : List Char),
      (r.frame.repeatLast? min max).map (fun frame => ({ r with frame }, dropLazy u)) =
        r.follow (some (.repeatLast min max, dropLazy u)) := by
    intro min max u
    simp only [follow, Option.bind_some, move?, Option.map_map]
    rfl
  unfold step nextMove
  dsimp only
  split
  · exact readGroup_eq_follow r s
  · rfl
  · rfl
  · generalize readSet r.flags _ _ _ _ = read
    cases read <;> rfl
  · exact hrepeat _ _ s
  · exact hrepeat _ _ s
  · exact hrepeat _ _ s
  · rcases readBounds r.flags s with _ | ⟨min, max, rest⟩
    · rfl
    · exact hrepeat _ _ _
  · cases dot? r.flags <;> rfl
  · rfl
  · rfl
  · rcases readEscape r.flags s with _ | ⟨escape, rest⟩
    · rfl
    · dsimp only
      cases escapeRegex? r.flags escape <;> rfl
  · simp only [follow, Option.bind_some]
    rfl

theorem step_eq_some {r r' : Reader} {c : Char} {s z : List Char} :
    r.step c s = some (r', z) ↔
      ∃ m, nextMove r.flags r.names c s = some (m, z) ∧ r.move? m = some r' := by
  rw [step_eq_follow, follow_eq_some]

end Reader

/-! ## Groups around the reader -/

private theorem Move.group_ne_closeGroup {f : Flags} {names : List (List Char)} {s z : List Char} :
    Move.group f names s ≠ some (.closeGroup, z) := by
  have hnamed : ∀ u, Move.named f names u ≠ some (.closeGroup, z) := by
    intro u
    unfold Move.named
    split
    · split <;> simp
    · simp
  unfold Move.group
  split
  · exact hnamed _
  · simp
  · simp
  · exact hnamed _
  · unfold Move.switches
    split <;> simp
  · simp

/-- Nothing but a parenthesis closes a group. -/
theorem nextMove_closeGroup {f : Flags} {names : List (List Char)} {c : Char} {s z : List Char}
    (h : nextMove f names c s = some (.closeGroup, z)) : c = ')' := by
  unfold nextMove at h
  split at h
  case h_1 => exact absurd h Move.group_ne_closeGroup
  case h_2 => rfl
  case h_12 =>
      split at h
      · simp [Move.add] at h
      · simp at h
  all_goals simp [Move.add] at h

namespace Reader

/-- The reader with more groups around those that it has open. -/
def under (r : Reader) (around : List (Flags × Frame)) : Reader :=
  { r with outer := r.outer ++ around }

/-- More groups around it change a move only if it closes a group that was not open. -/
theorem move?_under {r : Reader} {around : List (Flags × Frame)} : ∀ {m : Move},
    (m = .closeGroup → r.outer ≠ []) →
      (r.under around).move? m = (r.move? m).map (·.under around)
  | .push _ _, _ => rfl
  | .openGroup _ _, _ => rfl
  | .branch, _ => rfl
  | .repeatLast min max, _ => by
      simp only [move?, under, Option.map_map]
      rfl
  | .closeGroup, h => by
      obtain ⟨⟨flags, frame⟩, outer, houter⟩ := List.exists_cons_of_ne_nil (h rfl)
      simp only [move?, closeGroup?, under, houter, List.cons_append, Option.map_some]

end Reader

/-! ## Bounds of repetitions -/

/-- The lower bound of every repetition in the item is below the upper one. -/
def Item.Bounded : Item → Prop
  | piece p => p.regex.Bounded
  | switch => True

def Move.Bounded : Move → Prop
  | push item _ => item.Bounded
  | repeatLast min max => ∀ m, max = some m → min ≤ m
  | _ => True

theorem Regex.catOf_bounded : ∀ {rs : List Regex}, (∀ r ∈ rs, r.Bounded) → (catOf rs).Bounded
  | [], _ => trivial
  | [r], h => h r (List.mem_singleton_self r)
  | r :: _ :: _, h =>
      ⟨h r (List.mem_cons_self ..), catOf_bounded fun q hq => h q (List.mem_cons_of_mem r hq)⟩

theorem Regex.altOf_bounded : ∀ {rs : List Regex}, (∀ r ∈ rs, r.Bounded) → (altOf rs).Bounded
  | [], _ => trivial
  | [r], h => h r (List.mem_singleton_self r)
  | r :: _ :: _, h =>
      ⟨h r (List.mem_cons_self ..), altOf_bounded fun q hq => h q (List.mem_cons_of_mem r hq)⟩

structure Frame.Bounded (frame : Frame) : Prop where
  branches : ∀ p ∈ frame.branches, p.regex.Bounded
  items : ∀ item ∈ frame.items, item.Bounded

namespace Frame

variable {frame : Frame}

theorem Bounded.push {item : Item} (h : frame.Bounded) (hitem : item.Bounded) :
    (frame.push item).Bounded :=
  ⟨h.branches, List.forall_mem_cons.mpr ⟨hitem, h.items⟩⟩

theorem Bounded.branch (h : frame.Bounded) : frame.branch.regex.Bounded := by
  refine Regex.catOf_bounded fun regex hregex => ?_
  obtain ⟨item, hitem, heq⟩ := List.mem_filterMap.mp hregex
  have hbounded := h.items item (List.mem_reverse.mp hitem)
  cases item with
  | piece p => exact Option.some.inj heq ▸ hbounded
  | switch => simp [Item.regex?] at heq

theorem Bounded.total (h : frame.Bounded) : frame.total.regex.Bounded := by
  unfold Frame.total
  split
  · exact h.branch
  · rename_i hne
    refine Regex.altOf_bounded fun regex hregex => ?_
    obtain ⟨p, hp, rfl⟩ := List.mem_map.mp hregex
    rcases List.mem_cons.mp (List.mem_reverse.mp hp) with rfl | hp
    · exact h.branch
    · exact h.branches p hp

theorem Bounded.repeatLast? {frame' : Frame} {min : Nat} {max : Option Nat} (h : frame.Bounded)
    (hle : ∀ m, max = some m → min ≤ m) (hr : frame.repeatLast? min max = some frame') :
    frame'.Bounded := by
  unfold Frame.repeatLast? at hr
  split at hr
  · rename_i p items hitems
    obtain rfl := Option.some.inj hr
    have hall := h.items
    rw [hitems] at hall
    obtain ⟨hp, hrest⟩ := List.forall_mem_cons.mp hall
    exact ⟨h.branches, List.forall_mem_cons.mpr ⟨⟨hp, hle⟩, hrest⟩⟩
  · simp at hr

end Frame

theorem readBounds_le {f : Flags} {s rest : List Char} {min : Nat} {max : Option Nat}
    (h : readBounds f s = some (min, max, rest)) : ∀ m, max = some m → min ≤ m := by
  unfold readBounds at h
  split at h
  · simp at h
  · split at h
    · simp only [Option.some.injEq, Prod.mk.injEq] at h
      obtain ⟨-, rfl, -⟩ := h
      simp
    · split at h
      · split at h
        · rename_i hle
          simp only [Option.some.injEq, Prod.mk.injEq] at h
          obtain ⟨rfl, rfl, -⟩ := h
          intro m hm
          exact Option.some.inj hm ▸ hle
        · simp at h
      · simp at h
  · simp only [Option.some.injEq, Prod.mk.injEq] at h
    obtain ⟨rfl, rfl, -⟩ := h
    intro m hm
    exact Nat.le_of_eq (Option.some.inj hm)
  · simp at h

theorem dot?_bounded {f : Flags} {regex : Regex} (h : dot? f = some regex) : regex.Bounded := by
  unfold dot? at h
  split at h
  · simp at h
  · split at h
    · exact Option.some.inj h ▸ trivial
    · split at h <;> exact Option.some.inj h ▸ trivial

theorem escapeRegex?_bounded {f : Flags} {e : Escape} {regex : Regex}
    (h : escapeRegex? f e = some regex) : regex.Bounded := by
  cases e <;> simp only [escapeRegex?] at h
  case byte c =>
      split at h
      · simp at h
      · exact Option.some.inj h ▸ trivial
  case «class» letter =>
      obtain ⟨set, -, rfl⟩ := Option.map_eq_some_iff.mp h
      trivial
  case property p negated =>
      obtain ⟨set, -, rfl⟩ := Option.map_eq_some_iff.mp h
      trivial
  all_goals exact Option.some.inj h ▸ trivial

theorem Move.group_bounded {f : Flags} {names : List (List Char)} {s z : List Char} {m : Move}
    (h : Move.group f names s = some (m, z)) : m.Bounded := by
  have hnamed : ∀ {u}, Move.named f names u = some (m, z) → m.Bounded := by
    intro u hu
    unfold Move.named at hu
    split at hu
    · split at hu
      · simp at hu
      · obtain ⟨rfl, -⟩ := Prod.mk.inj (Option.some.inj hu)
        trivial
    · simp at hu
  unfold Move.group at h
  split at h
  · exact hnamed h
  · simp at h
  · simp at h
  · exact hnamed h
  · unfold Move.switches at h
    split at h
    · obtain ⟨rfl, -⟩ := Prod.mk.inj (Option.some.inj h)
      trivial
    · simp at h
    · obtain ⟨rfl, -⟩ := Prod.mk.inj (Option.some.inj h)
      trivial
    · simp at h
  · obtain ⟨rfl, -⟩ := Prod.mk.inj (Option.some.inj h)
    trivial

/-- No move asks for more rounds than it allows. -/
theorem nextMove_bounded {f : Flags} {names : List (List Char)} {c : Char} {s z : List Char}
    {m : Move} (h : nextMove f names c s = some (m, z)) : m.Bounded := by
  unfold nextMove at h
  split at h
  case h_1 => exact Move.group_bounded h
  case h_4 =>
      obtain ⟨_, -, heq⟩ := Option.map_eq_some_iff.mp h
      obtain ⟨rfl, -⟩ := Prod.mk.inj heq
      trivial
  case h_5 =>
      obtain ⟨rfl, -⟩ := Prod.mk.inj (Option.some.inj h)
      exact fun m _ => Nat.zero_le m
  case h_6 =>
      obtain ⟨rfl, -⟩ := Prod.mk.inj (Option.some.inj h)
      exact fun m _ => Nat.zero_le m
  case h_7 =>
      obtain ⟨rfl, -⟩ := Prod.mk.inj (Option.some.inj h)
      intro m hm
      simp at hm
  case h_8 =>
      obtain ⟨_, hbounds, heq⟩ := Option.map_eq_some_iff.mp h
      obtain ⟨rfl, -⟩ := Prod.mk.inj heq
      exact readBounds_le hbounds
  case h_9 =>
      obtain ⟨regex, hdot, heq⟩ := Option.map_eq_some_iff.mp h
      obtain ⟨rfl, -⟩ := Prod.mk.inj heq
      exact dot?_bounded hdot
  case h_12 =>
      split at h
      · obtain ⟨regex, hregex, heq⟩ := Option.map_eq_some_iff.mp h
        obtain ⟨rfl, -⟩ := Prod.mk.inj heq
        exact escapeRegex?_bounded hregex
      · simp at h
  all_goals
      obtain ⟨rfl, -⟩ := Prod.mk.inj (Option.some.inj h)
      trivial

namespace Reader

structure Bounded (r : Reader) : Prop where
  frame : r.frame.Bounded
  outer : ∀ around ∈ r.outer, around.2.Bounded

theorem Bounded.move? {r r' : Reader} {m : Move} (h : r.Bounded) (hm : m.Bounded)
    (hr : r.move? m = some r') : r'.Bounded := by
  cases m with
  | push item flags =>
      obtain rfl := Option.some.inj hr
      exact ⟨h.frame.push hm, h.outer⟩
  | openGroup flags names =>
      obtain rfl := Option.some.inj hr
      exact ⟨⟨by simp [openGroup, Frame.new], by simp [openGroup, Frame.new]⟩,
        List.forall_mem_cons.mpr ⟨h.frame, h.outer⟩⟩
  | closeGroup =>
      simp only [Reader.move?, closeGroup?] at hr
      split at hr
      · simp at hr
      · rename_i flags around outer houter
        obtain rfl := Option.some.inj hr
        have hall := h.outer
        rw [houter] at hall
        obtain ⟨haround, hrest⟩ := List.forall_mem_cons.mp hall
        exact ⟨Frame.Bounded.push haround h.frame.total, hrest⟩
  | branch =>
      obtain rfl := Option.some.inj hr
      exact ⟨⟨List.forall_mem_cons.mpr ⟨h.frame.branch, h.frame.branches⟩, by simp⟩, h.outer⟩
  | repeatLast min max =>
      obtain ⟨frame, hframe, rfl⟩ := Option.map_eq_some_iff.mp hr
      exact ⟨h.frame.repeatLast? hm hframe, h.outer⟩

theorem Bounded.step {r r' : Reader} {c : Char} {s z : List Char} (h : r.Bounded)
    (hr : r.step c s = some (r', z)) : r'.Bounded := by
  obtain ⟨m, hm, hmove⟩ := step_eq_some.mp hr
  exact h.move? (nextMove_bounded hm) hmove

end Reader

end Gapfill.Pattern
