import Gapfill.Proofs.Authored.Delimiters
import Gapfill.Proofs.LiteralAnswer
import Gapfill.Proofs.OptionLetters
import Gapfill.Proofs.Text.Split

/-!
# Where the problems of the blocks stand

A diagnostic names a place by the number of bytes before it. Reading carries
that number along and adds to it at every step: blanks, percentages, brackets,
expressions, boundaries and the ends of blocks. The number is right as long as
what is still to be read stands behind so many bytes of the source, and this is
what every step keeps (`Advance`).

So each diagnostic of a stretch lies within that stretch, and what its problem
speaks of stands there (`Within`). Stretches follow each other, hence so do the
diagnostics (`Within.append`, `Advance.append`).
-/

namespace Gapfill

/-! ## Characters of one byte -/

theorem ascii_of_isDigit {c : Char} (h : c.isDigit = true) : c.toNat ≤ 127 :=
  Nat.le_trans (Char.isDigit_iff_toNat.mp h).2 (by decide)

theorem ascii_of_isGapBlank {c : Char} (h : isGapBlank c = true) : c.toNat ≤ 127 := by
  simp only [isGapBlank, Bool.or_eq_true, beq_iff_eq] at h
  rcases h with (rfl | rfl) | rfl <;> decide

theorem ascii_of_isAsciiLetter {c : Char} (h : isAsciiLetter c = true) : c.toNat ≤ 127 := by
  unfold isAsciiLetter Char.isAlpha Char.isUpper Char.isLower at h
  rcases Bool.or_eq_true_iff.mp h with hupper | hlower
  · have hz := (of_decide_eq_true hupper).2
    exact Nat.le_trans (UInt32.le_iff_toNat_le.mp hz) (by decide)
  · have hz := of_decide_eq_true (Bool.and_eq_true_iff.mp hlower).2
    exact Nat.le_trans (UInt32.le_iff_toNat_le.mp hz) (by decide)

/-! ## Places -/

/-- What a problem speaks of stands at its place: `rest` comes from there on, and `before` is
everything before it. A problem of the syntax speaks of nothing that stands somewhere; a pattern
that is refused, and a gap, have no place. -/
def Problem.FoundAt (before rest : List Char) : Problem → Prop
  | .illegalSyntax => True
  | .unescapedAnchor => ∃ after, rest = '$' :: after ∨ rest = '^' :: after
  | .unknownKey key => key.toList ++ ['='] <+: rest
  | .keyOrder key _ => key.toList ++ ['='] <+: rest
  | .invalidPoints _ => "points=".toList <+: rest
  | .invalidSize _ => "size=".toList <+: rest
  | .illegalLine line =>
    -- the line reaches to the next newline
    line.toList = rest.takeWhile (· != '\n')
  | .unknownOption option =>
    -- the letters begin behind a slash
    (∃ ahead, before = ahead ++ ['/'])
      ∧ ∃ known others after, rest = known ++ option :: (others ++ '/' :: after)
        ∧ (∀ c ∈ known ++ option :: others, isAsciiLetter c = true)
        ∧ (∀ c ∈ known, Options.isLetter c = true) ∧ Options.isLetter option = false
  | .illegalPercentage value => '%' :: value.toList <+: rest
  | .illegalCharacter context actual _ =>
    -- with nothing between the percentage and the end of its block, no character is named
    context.toList = before ∧ actual.toList <+: rest
      ∧ (actual.toList.length = 1 ∨ actual = "" ∧ endTail.Starts rest)
  | .invalidRegex _ _ | .duplicatedGap _ | .noGaps | .noSuchGap _ | .gapNotDefined _ => False

/-- The diagnostic has a place between two characters of the source, or at one of its ends, and
what its problem speaks of stands there. -/
def Diagnostic.Located (source : List Char) (d : Diagnostic) : Prop :=
  ∃ before rest, source = before ++ rest ∧ d.offset = some (utf8Length before)
    ∧ d.problem.FoundAt before rest

/-- The first diagnostic does not stand behind the second. -/
def Diagnostic.NotBehind (d d' : Diagnostic) : Prop :=
  ∀ a ∈ d.offset, ∀ b ∈ d'.offset, a ≤ b

/-- The diagnostics stand in a stretch of the source, in order. -/
structure Within (source : List Char) (lo hi : Nat) (diagnostics : List Diagnostic) : Prop where
  located : ∀ d ∈ diagnostics, d.Located source
  bounds : ∀ d ∈ diagnostics, ∀ offset ∈ d.offset, lo ≤ offset ∧ offset ≤ hi
  ordered : diagnostics.Pairwise Diagnostic.NotBehind

namespace Within

variable {source : List Char} {lo mid hi : Nat}

theorem nil : Within source lo hi [] := ⟨by simp, by simp, List.Pairwise.nil⟩

theorem singleton {before rest : List Char} {problem : Problem} (hsource : source = before ++ rest)
    (hfound : problem.FoundAt before rest) (hlo : lo ≤ utf8Length before)
    (hhi : utf8Length before ≤ hi) :
    Within source lo hi [.at problem (utf8Length before)] where
  located := List.forall_mem_singleton.mpr ⟨before, rest, hsource, rfl, hfound⟩
  bounds := List.forall_mem_singleton.mpr fun _ h => Option.some.inj h ▸ ⟨hlo, hhi⟩
  ordered := List.pairwise_singleton _ _

/-- Stretches one behind the other. -/
theorem append {ds ds' : List Diagnostic} (hlo : lo ≤ mid) (hhi : mid ≤ hi)
    (h : Within source lo mid ds) (h' : Within source mid hi ds') :
    Within source lo hi (ds ++ ds') where
  located := List.forall_mem_append.mpr ⟨h.located, h'.located⟩
  bounds := List.forall_mem_append.mpr
    ⟨fun d hd offset hoffset => ⟨(h.bounds d hd offset hoffset).1,
        Nat.le_trans (h.bounds d hd offset hoffset).2 hhi⟩,
      fun d hd offset hoffset => ⟨Nat.le_trans hlo (h'.bounds d hd offset hoffset).1,
        (h'.bounds d hd offset hoffset).2⟩⟩
  ordered := List.pairwise_append.mpr ⟨h.ordered, h'.ordered, fun d hd d' hd' a ha b hb =>
    Nat.le_trans (h.bounds d hd a ha).2 (h'.bounds d' hd' b hb).1⟩

theorem mono {lo' hi' : Nat} {ds : List Diagnostic} (h : Within source lo hi ds) (hlo : lo' ≤ lo)
    (hhi : hi ≤ hi') : Within source lo' hi' ds where
  located := h.located
  bounds d hd offset hoffset :=
    ⟨Nat.le_trans hlo (h.bounds d hd offset hoffset).1,
      Nat.le_trans (h.bounds d hd offset hoffset).2 hhi⟩
  ordered := h.ordered

end Within

/-! ## Anchors -/

theorem exists_anchor_of_bareAnchorFrom : ∀ {body : List Char} {escaped : Bool} {pos n : Nat},
    bareAnchorFrom escaped pos body = some n →
      ∃ u c v, body = u ++ c :: v ∧ (c = '$' ∨ c = '^') ∧ n = pos + utf8Length u
  | [], escaped, _, _, h => by simp [bareAnchorFrom] at h
  | c :: rest, true, pos, n, h => by
      rw [bareAnchorFrom] at h
      obtain ⟨u, d, v, rfl, hd, rfl⟩ := exists_anchor_of_bareAnchorFrom h
      exact ⟨c :: u, d, v, rfl, hd, by rw [utf8Length, Nat.add_assoc]⟩
  | c :: rest, false, pos, n, h => by
      rw [bareAnchorFrom] at h
      split at h
      · rename_i hc
        obtain rfl := Option.some.inj h
        exact ⟨[], c, rest, rfl, by simpa using hc, rfl⟩
      · obtain ⟨u, d, v, rfl, hd, rfl⟩ := exists_anchor_of_bareAnchorFrom h
        exact ⟨c :: u, d, v, rfl, hd, by rw [utf8Length, Nat.add_assoc]⟩

theorem anchorProblems_cons (entry : Nat × List Char) (entries : List (Nat × List Char)) :
    anchorProblems (entry :: entries) = anchorProblems [entry] ++ anchorProblems entries := by
  unfold anchorProblems
  rw [← List.singleton_append, List.filterMap_append]

/-- The problem of one expression, whose text stands behind `before`. -/
theorem anchorProblems_within {source before body tail : List Char}
    (hsource : source = before ++ (body ++ tail)) :
    Within source (utf8Length before) (utf8Length before + utf8Length body)
      (anchorProblems [(utf8Length before, body)]) := by
  cases hanchor : bareAnchor? body with
  | none =>
      have hnone : anchorProblems [(utf8Length before, body)] = [] := by
        simp [anchorProblems, hanchor]
      exact hnone ▸ Within.nil
  | some n =>
      obtain ⟨u, c, v, rfl, hc, rfl⟩ := exists_anchor_of_bareAnchorFrom hanchor
      have hone : anchorProblems [(utf8Length before, u ++ c :: v)] =
          [.at .unescapedAnchor (utf8Length (before ++ u))] := by
        simp [anchorProblems, hanchor, utf8Length_append]
      rw [hone]
      have hplace : source = (before ++ u) ++ c :: (v ++ tail) := by simp [hsource]
      refine Within.singleton hplace ?_ ?_ ?_
      · rcases hc with rfl | rfl
        · exact ⟨_, Or.inl rfl⟩
        · exact ⟨_, Or.inr rfl⟩
      · rw [utf8Length_append]
        exact Nat.le_add_right _ _
      · rw [utf8Length_append, utf8Length_append]
        omega

/-- The expression read so far stands behind `before`. -/
theorem anchorProblems_bodiesFrom {source tail : List Char} : ∀ (text : List Char) (skip : Nat)
    {before current : List Char}, source = before ++ (current.reverse ++ (text ++ tail)) →
      Within source (utf8Length before) (utf8Length (before ++ (current.reverse ++ text)))
        (anchorProblems (bodiesFrom (utf8Length (before ++ current.reverse)) skip
          (utf8Length before) current text))
  | [], skip, before, current, hsource => by
      have hlast : bodiesFrom (utf8Length (before ++ current.reverse)) skip (utf8Length before)
          current [] = [(utf8Length before, current.reverse)] := by
        cases skip <;> rfl
      rw [hlast, List.append_nil, utf8Length_append]
      exact anchorProblems_within hsource
  | c :: text, skip, before, current, hsource => by
      -- where the expression ends before `c`, the next one is read from behind `c`
      have hnext : ∀ skip', Within source (utf8Length (before ++ current.reverse))
          (utf8Length (before ++ (current.reverse ++ c :: text)))
          (anchorProblems (bodiesFrom (utf8Length (before ++ current.reverse) + c.utf8Size) skip'
            (utf8Length (before ++ current.reverse) + c.utf8Size) [] text)) := by
        intro skip'
        have hbehind : source = (before ++ (current.reverse ++ [c]))
            ++ (([] : List Char).reverse ++ (text ++ tail)) := by
          simp [hsource]
        have hlength : utf8Length (before ++ (current.reverse ++ [c])) =
            utf8Length (before ++ current.reverse) + c.utf8Size := by
          simp [utf8Length, Nat.add_assoc]
        have ih := anchorProblems_bodiesFrom text skip' hbehind
        rw [List.reverse_nil, List.append_nil, hlength] at ih
        refine ih.mono (Nat.le_add_right _ _) (Nat.le_of_eq ?_)
        simp [utf8Length]
      have hhere : utf8Length before ≤ utf8Length (before ++ current.reverse) := by simp
      cases skip with
      | succ skip =>
          rw [bodiesFrom]
          exact (hnext skip).mono hhere (Nat.le_refl _)
      | zero =>
          rw [bodiesFrom]
          cases boundaryLength? (c :: text) with
          | some n =>
              dsimp only
              rw [anchorProblems_cons]
              refine Within.append hhere (by simp) ?_ (hnext _)
              rw [utf8Length_append]
              exact anchorProblems_within hsource
          | none =>
              have hlonger : source = before ++ ((c :: current).reverse ++ (text ++ tail)) := by
                simp [hsource]
              have hlength : utf8Length (before ++ (c :: current).reverse) =
                  utf8Length (before ++ current.reverse) + c.utf8Size := by
                simp [utf8Length, Nat.add_assoc]
              have ih := anchorProblems_bodiesFrom text 0 hlonger
              rw [hlength] at ih
              refine ih.mono (Nat.le_refl _) (Nat.le_of_eq ?_)
              simp [utf8Length]

/-- The expressions of a block, whose text stands behind `before`. -/
theorem anchorProblems_bodies {source before inner tail : List Char}
    (hsource : source = before ++ (inner ++ tail)) :
    Within source (utf8Length before) (utf8Length (before ++ inner))
      (anchorProblems (bodies (utf8Length before) inner)) := by
  have hstart : source = before ++ (([] : List Char).reverse ++ (inner ++ tail)) := hsource
  simpa [bodies] using anchorProblems_bodiesFrom inner 0 hstart

theorem anchorProblems_soft (entries : List (Nat × List Char)) :
    ∀ d ∈ anchorProblems entries, d.problem.isFatal = false := by
  intro d hd
  obtain ⟨entry, -, hentry⟩ := List.mem_filterMap.mp hd
  obtain ⟨n, -, rfl⟩ := Option.map_eq_some_iff.mp hentry
  rfl

/-! ## The end of a block -/

theorem text_of_blockEnd? {s after : List Char} {e : BlockEnd} (h : blockEnd? s = some (e, after)) :
    s = e.text ++ after ∧ e.Valid := by
  unfold blockEnd? at h
  split at h
  · rename_i rest
    split at h
    · rename_i rest' hrest
      split at h
      · rename_i after' hafter
        obtain ⟨rfl, rfl⟩ := Prod.mk.inj (Option.some.inj h)
        have hs : rest.takeWhile isGapBlank
            ++ '/' :: (rest'.takeWhile isAsciiLetter ++ '/' :: after') = rest := by
          rw [← hafter, List.takeWhile_append_dropWhile, ← hrest, List.takeWhile_append_dropWhile]
        refine ⟨?_, fun c hc => List.mem_takeWhile_imp hc, fun c hc => List.mem_takeWhile_imp hc⟩
        exact congrArg (']' :: ']' :: ·) (by simpa using hs.symm)
      · simp at h
    · simp at h
  · simp at h

theorem text_of_cutAtBlockEnd : ∀ {text raw rest : List Char} {e : BlockEnd},
    cutAtBlockEnd text = some (raw, e, rest) → text = raw ++ (e.text ++ rest) ∧ e.Valid
  | [], _, _, _, h => by simp [cutAtBlockEnd] at h
  | c :: text, raw, rest, e, h => by
      rw [cutAtBlockEnd] at h
      split at h
      · rename_i e' after hend
        obtain ⟨rfl, heq⟩ := Prod.mk.inj (Option.some.inj h)
        obtain ⟨rfl, rfl⟩ := Prod.mk.inj heq
        exact text_of_blockEnd? hend
      · split at h
        · rename_i before e' after hcut
          obtain ⟨rfl, heq⟩ := Prod.mk.inj (Option.some.inj h)
          obtain ⟨rfl, rfl⟩ := Prod.mk.inj heq
          obtain ⟨rfl, hvalid⟩ := text_of_cutAtBlockEnd hcut
          exact ⟨rfl, hvalid⟩
        · simp at h

theorem BlockEnd.Valid.utf8Length_text {e : BlockEnd} (h : e.Valid) :
    utf8Length e.text = e.length := by
  have hascii : ∀ c ∈ e.text, c.toNat ≤ 127 := by
    have hbracket : ']'.toNat ≤ 127 ∧ '/'.toNat ≤ 127 := by decide
    simp only [BlockEnd.text, List.mem_cons, List.mem_append, List.not_mem_nil, or_false]
    rintro c (rfl | rfl | hc | rfl | hc | rfl)
    · exact hbracket.1
    · exact hbracket.1
    · exact ascii_of_isGapBlank (h.blanks c hc)
    · exact hbracket.2
    · exact ascii_of_isAsciiLetter (h.letters c hc)
    · exact hbracket.2
  rw [utf8Length_ascii hascii]
  simp [BlockEnd.text, BlockEnd.length]
  omega

/-! ## Letters -/

/-- The letter that is reported is the first that is no option letter. -/
theorem Options.setAll_error {letters : List Char} {options : Options} {option : Char}
    (h : options.setAll letters = .error option) :
    ∃ known others, letters = known ++ option :: others
      ∧ (∀ c ∈ known, Options.isLetter c = true) ∧ Options.isLetter option = false := by
  rw [setAll_eq] at h
  split at h
  · rename_i c hfind
    obtain rfl := Except.error.inj h
    obtain ⟨hoption, known, others, hletters, hknown⟩ := List.find?_eq_some_iff_append.mp hfind
    refine ⟨known, others, hletters, fun c hc => ?_, ?_⟩
    · exact isLetter_iff.mpr (by simpa using hknown c hc)
    · rw [← Bool.not_eq_true, isLetter_iff]
      simpa using hoption
  · cases h

/-! ## Stretches -/

/-- How far reading came in the source from behind `lo` bytes. Either it goes on behind problems
that are not fatal, at the place where the rest stands, or a last problem ends it. -/
inductive Advance (source : List Char) (lo : Nat) :
    List Diagnostic → Option (Nat × List Char) → Prop
  | goesOn {before rest : List Char} {ds : List Diagnostic} :
      source = before ++ rest → lo ≤ utf8Length before → Within source lo (utf8Length before) ds →
        (∀ d ∈ ds, d.problem.isFatal = false) →
          Advance source lo ds (some (utf8Length before, rest))
  | stops {ds : List Diagnostic} {d : Diagnostic} :
      Within source lo (utf8Length source) (ds ++ [d]) →
        (∀ d ∈ ds, d.problem.isFatal = false) → Advance source lo (ds ++ [d]) none

namespace Advance

variable {source : List Char} {lo mid : Nat}

theorem place {rest : List Char} {ds : List Diagnostic}
    (h : Advance source lo ds (some (mid, rest))) :
    ∃ before, source = before ++ rest ∧ utf8Length before = mid ∧ lo ≤ mid
      ∧ Within source lo mid ds ∧ ∀ d ∈ ds, d.problem.isFatal = false := by
  cases h with
  | goesOn hsource hle hwithin hsoft => exact ⟨_, hsource, rfl, hle, hwithin, hsoft⟩

/-- Where reading goes on, the next stretch begins. -/
theorem append {rest : List Char} {next : Option (Nat × List Char)} {ds ds' : List Diagnostic}
    (h : Advance source lo ds (some (mid, rest))) (h' : Advance source mid ds' next) :
    Advance source lo (ds ++ ds') next := by
  cases h with
  | goesOn hsource hle hwithin hsoft =>
      cases h' with
      | goesOn hsource' hle' hwithin' hsoft' =>
          exact .goesOn hsource' (Nat.le_trans hle hle') (hwithin.append hle hle' hwithin')
            (List.forall_mem_append.mpr ⟨hsoft, hsoft'⟩)
      | stops hwithin' hsoft' =>
          have hend := hsource ▸ utf8Length_le_append _ rest
          rw [← List.append_assoc]
          refine .stops ?_ (List.forall_mem_append.mpr ⟨hsoft, hsoft'⟩)
          rw [List.append_assoc]
          exact hwithin.append hle hend hwithin'

/-- A stretch that begins earlier. -/
theorem mono {lo' : Nat} {next : Option (Nat × List Char)} {ds : List Diagnostic}
    (h : Advance source lo ds next) (hle : lo' ≤ lo) : Advance source lo' ds next := by
  cases h with
  | goesOn hsource hle' hwithin hsoft =>
      exact .goesOn hsource (Nat.le_trans hle hle') (hwithin.mono hle (Nat.le_refl _)) hsoft
  | stops hwithin hsoft => exact .stops (hwithin.mono hle (Nat.le_refl _)) hsoft

/-- A problem at the place where the rest stands ends the reading. -/
theorem stop {before rest : List Char} {ds : List Diagnostic} {problem : Problem}
    (hsource : source = before ++ rest) (hle : lo ≤ utf8Length before)
    (hwithin : Within source lo (utf8Length before) ds)
    (hsoft : ∀ d ∈ ds, d.problem.isFatal = false) (hfound : problem.FoundAt before rest) :
    Advance source lo (ds ++ [.at problem (utf8Length before)]) none := by
  have hend : utf8Length before ≤ utf8Length source := hsource ▸ utf8Length_le_append before rest
  exact .stops (hwithin.append hle hend (.singleton hsource hfound (Nat.le_refl _) hend)) hsoft

/-- Blanks are skipped before reading goes on. -/
theorem skipping {before rest : List Char} {ds : List Diagnostic}
    (hsource : source = before ++ rest) (hle : lo ≤ utf8Length before)
    (hwithin : Within source lo (utf8Length before) ds)
    (hsoft : ∀ d ∈ ds, d.problem.isFatal = false) :
    Advance source lo ds (some (skipBlanks (utf8Length before) rest)) := by
  have hskip : skipBlanks (utf8Length before) rest =
      (utf8Length (before ++ rest.takeWhile isBlank), trimStart rest) := by
    rw [skipBlanks, utf8Length_append]
  have hlonger := utf8Length_le_append before (rest.takeWhile isBlank)
  rw [hskip]
  refine .goesOn ?_ (Nat.le_trans hle hlonger) (hwithin.mono (Nat.le_refl _) hlonger) hsoft
  rw [hsource, List.append_assoc, trimStart, List.takeWhile_append_dropWhile]

/-- What the letters of a block do: either one of them is unknown, or reading goes on behind the
end of the block. -/
theorem ending {options : Options} {front rest : List Char} {e : BlockEnd}
    {ds : List Diagnostic} (he : e.Valid) (hsource : source = front ++ (e.text ++ rest))
    (hle : lo ≤ utf8Length front) (hwithin : Within source lo (utf8Length front) ds)
    (hsoft : ∀ d ∈ ds, d.problem.isFatal = false) :
    (∀ option, options.setAll e.letters = .error option → Advance source lo
        (ds ++ [.at (.unknownOption option) (utf8Length front + e.lettersOffset)]) none)
      ∧ Advance source lo ds (some (skipBlanks (utf8Length front + e.length) rest)) := by
  constructor
  · intro option herror
    obtain ⟨known, others, hletters, hknown, hoption⟩ := Options.setAll_error herror
    have hlength : utf8Length (front ++ ']' :: ']' :: (e.blanks ++ ['/'])) =
        utf8Length front + e.lettersOffset := by
      have hascii := utf8Length_ascii fun c hc => ascii_of_isGapBlank (he.blanks c hc)
      have hsize : ']'.utf8Size = 1 ∧ '/'.utf8Size = 1 := by decide
      simp [utf8Length, hascii, hsize, BlockEnd.lettersOffset]
      omega
    rw [← hlength]
    have hlonger := utf8Length_le_append front (']' :: ']' :: (e.blanks ++ ['/']))
    have hplace : source = (front ++ ']' :: ']' :: (e.blanks ++ ['/']))
        ++ (known ++ option :: (others ++ '/' :: rest)) := by
      rw [hsource, BlockEnd.text, hletters]
      simp
    refine stop hplace (Nat.le_trans hle hlonger) (hwithin.mono (Nat.le_refl _) hlonger) hsoft ?_
    exact ⟨⟨front ++ ']' :: ']' :: e.blanks, by simp⟩, known, others, rest, rfl,
      hletters ▸ he.letters, hknown, hoption⟩
  · have hlonger := utf8Length_le_append front e.text
    have hplace : source = (front ++ e.text) ++ rest := by rw [hsource, List.append_assoc]
    have hnext := skipping hplace (Nat.le_trans hle hlonger)
      (hwithin.mono (Nat.le_refl _) hlonger) hsoft
    rwa [utf8Length_append, he.utf8Length_text] at hnext

end Advance

/-! ## One block -/

/-- Closing brackets are no blanks, so what is trimmed before them is trimmed of them too. -/
theorem trimStart_append_bracket (raw behind : List Char) :
    trimStart (raw ++ ']' :: behind) = trimStart raw ++ ']' :: behind := by
  unfold trimStart
  rw [List.dropWhile_append]
  split
  · rename_i hempty
    rw [List.isEmpty_iff.mp hempty, List.dropWhile_cons_of_neg (by decide), List.nil_append]
  · rfl

theorem takeWhile_append_trimStart (raw behind : List Char) :
    raw.takeWhile isBlank ++ (trimStart raw ++ behind) = raw ++ behind := by
  rw [← List.append_assoc, trimStart, List.takeWhile_append_dropWhile]

theorem trimStart_eq_nil_of_trim {raw : List Char} (h : trim raw = []) : trimStart raw = [] := by
  cases hraw : trimStart raw with
  | nil => rfl
  | cons c text =>
      have hc : isBlank c = false := head_of_dropWhile hraw
      have htrim : trim raw = c :: trimEnd text := by
        rw [trim, hraw]
        exact trimEnd_append_cons hc [] text
      rw [h] at htrim
      exact absurd htrim (List.cons_ne_nil _ _).symm

/-- The character that stands where brackets are expected. -/
theorem illegalCharacter_found {before raw behind : List Char} {e : BlockEnd} (he : e.Valid) :
    let source := before ++ (raw ++ (e.text ++ behind))
    let context := source.take (source.length - (trimStart (raw ++ (e.text ++ behind))).length)
    Problem.FoundAt (before ++ raw.takeWhile isBlank) (trimStart raw ++ (e.text ++ behind))
      (.illegalCharacter (String.ofList context) (String.ofList ((trim raw).take 1)) "[[") := by
  intro source context
  have htrimmed : trimStart (raw ++ (e.text ++ behind)) = trimStart raw ++ (e.text ++ behind) :=
    trimStart_append_bracket raw _
  have hplace : source = (before ++ raw.takeWhile isBlank)
      ++ (trimStart raw ++ (e.text ++ behind)) := by
    rw [List.append_assoc, takeWhile_append_trimStart]
  refine ⟨?_, ?_, ?_⟩
  · rw [String.toList_ofList]
    change source.take (source.length - _) = _
    rw [htrimmed, hplace, List.length_append, Nat.add_sub_cancel, List.take_left]
  · rw [String.toList_ofList]
    exact ((List.take_prefix _ _).trans (trimEnd_prefix_self _)).trans (List.prefix_append _ _)
  · cases htrim : trim raw with
    | nil =>
        refine Or.inr ⟨rfl, ?_⟩
        rw [trimStart_eq_nil_of_trim htrim, List.nil_append]
        exact endTail_starts_iff.mpr (Option.isSome_of_eq_some (blockEnd?_text he behind))
    | cons c text => exact Or.inl (by simp)

/-- Trimming drops blanks at both ends and nothing else. -/
theorem exists_trail (raw : List Char) :
    ∃ trail, raw = raw.takeWhile isBlank ++ (trim raw ++ trail) := by
  obtain ⟨trail, htrail⟩ := trimEnd_prefix_self (trimStart raw)
  refine ⟨trail, ?_⟩
  have hraw := takeWhile_append_trimStart raw []
  rw [List.append_nil, List.append_nil, ← htrail] at hraw
  exact hraw.symm

/-- The problems of the expressions stand between the blanks before the first brackets and the end
of the block. -/
theorem anchorProblems_block {source before raw inner behind : List Char}
    (hsource : source = before ++ (raw ++ behind)) (hinner : trim raw = '[' :: '[' :: inner) :
    Within source (utf8Length before) (utf8Length (before ++ raw))
      (anchorProblems (bodies (utf8Length (before ++ raw.takeWhile isBlank) + 2) inner)) := by
  obtain ⟨trail, htrail⟩ := exists_trail raw
  rw [hinner] at htrail
  generalize raw.takeWhile isBlank = lead at htrail ⊢
  subst htrail
  have hlength : utf8Length (before ++ (lead ++ ['[', '['])) = utf8Length (before ++ lead) + 2 := by
    rw [← List.append_assoc, utf8Length_append]
    rfl
  have hopen : source = (before ++ (lead ++ ['[', '['])) ++ (inner ++ (trail ++ behind)) := by
    simp [hsource]
  have hwithin := anchorProblems_bodies hopen
  rw [hlength] at hwithin
  refine hwithin.mono ?_ ?_
  · exact Nat.le_trans (utf8Length_le_append before lead) (Nat.le_add_right _ 2)
  · have hraw : before ++ (lead ++ ('[' :: '[' :: inner ++ trail)) =
        before ++ (lead ++ ['[', '[']) ++ inner ++ trail := by simp
    rw [hraw]
    exact utf8Length_le_append _ _

theorem readBlockBody_advance {source before text : List Char} (hsource : source = before ++ text)
    (options : Options) (first : Bool) (weight : Nat) :
    Advance source (utf8Length before)
      (readBlockBody options source first weight (utf8Length before) text).diagnostics
      (readBlockBody options source first weight (utf8Length before) text).rest := by
  unfold readBlockBody
  split
  · exact Advance.stop hsource (Nat.le_refl _) .nil (by simp) trivial
  · rename_i raw e rest hcut
    obtain ⟨rfl, he⟩ := text_of_cutAtBlockEnd hcut
    have hend : source = (before ++ raw) ++ (e.text ++ rest) := by
      rw [hsource, List.append_assoc]
    have hlo := utf8Length_le_append before raw
    simp only [skipBlanks, ← utf8Length_append]
    split
    · rename_i inner hinner
      obtain ⟨herror, hok⟩ := Advance.ending he hend hlo (anchorProblems_block hsource hinner)
        (anchorProblems_soft _)
      split
      · exact herror _ ‹_›
      · exact hok
    · have hbody : source = (before ++ raw.takeWhile isBlank)
          ++ (trimStart raw ++ (e.text ++ rest)) := by
        rw [hsource, List.append_assoc, takeWhile_append_trimStart]
      have hlo' := utf8Length_le_append before (raw.takeWhile isBlank)
      split
      · exact Advance.stop hbody hlo' .nil (by simp) trivial
      · have hhi : utf8Length (before ++ raw.takeWhile isBlank) ≤ utf8Length (before ++ raw) := by
          obtain ⟨trail, htrail⟩ := exists_trail raw
          conv_rhs => rw [htrail, ← List.append_assoc]
          exact utf8Length_le_append _ _
        have hfound := hsource ▸ illegalCharacter_found he
        obtain ⟨herror, hok⟩ := Advance.ending he hend hlo
          (Within.singleton hbody hfound hlo' hhi) (by simp [Diagnostic.at, Problem.isFatal])
        split
        · exact herror _ ‹_›
        · exact hok

/-! ## All blocks -/

/-- A percentage is read as it stands. -/
theorem text_of_readPercentage {text rest : List Char} {weight length : Nat}
    (h : readPercentage text = .ok (weight, length, rest)) :
    ∃ digits, text = '%' :: (digits ++ rest) ∧ utf8Length ('%' :: digits) = length := by
  unfold readPercentage at h
  split at h
  · rename_i text
    dsimp only at h
    split at h
    · simp at h
    · split at h
      · simp at h
      · obtain ⟨-, h⟩ := Prod.mk.inj (Except.ok.inj h)
        obtain ⟨rfl, rfl⟩ := Prod.mk.inj h
        have hascii : utf8Length (text.takeWhile Char.isDigit) =
            (text.takeWhile Char.isDigit).length :=
          utf8Length_ascii fun c hc => ascii_of_isDigit (List.mem_takeWhile_imp hc)
        refine ⟨text.takeWhile Char.isDigit, by rw [List.takeWhile_append_dropWhile], ?_⟩
        rw [utf8Length, hascii, Nat.add_comm]
        rfl
  · simp at h

theorem percentageProblem_found {text : List Char} {problem : Problem}
    (h : readPercentage text = .error problem) (before : List Char) :
    problem.FoundAt before text := by
  unfold readPercentage at h
  split at h
  · dsimp only at h
    split at h
    · obtain rfl := Except.error.inj h
      trivial
    · split at h
      · obtain rfl := Except.error.inj h
        change '%' :: (String.ofList _).toList <+: _
        rw [String.toList_ofList]
        exact List.cons_prefix_cons.mpr ⟨rfl, List.takeWhile_prefix _⟩
      · simp at h
  · obtain rfl := Except.error.inj h
    trivial

theorem readBlock_advance {source before text : List Char} (hsource : source = before ++ text)
    (options : Options) (first : Bool) :
    Advance source (utf8Length before)
      (readBlock options source first (utf8Length before) text).diagnostics
      (readBlock options source first (utf8Length before) text).rest := by
  unfold readBlock
  split
  · exact readBlockBody_advance hsource options true fullWeight
  · split
    · rename_i problem hproblem
      exact Advance.stop hsource (Nat.le_refl _) .nil (by simp)
        (percentageProblem_found hproblem before)
    · rename_i weight length rest hpercentage
      obtain ⟨digits, rfl, rfl⟩ := text_of_readPercentage hpercentage
      have hbehind : source = (before ++ '%' :: digits) ++ rest := by
        rw [hsource, List.append_assoc, List.cons_append]
      have hbody := readBlockBody_advance hbehind options false weight
      rw [utf8Length_append] at hbody
      exact hbody.mono (Nat.le_add_right _ _)

/-- Block after block is read from where the block before it ended. -/
theorem readBlocks_advance {source : List Char} (options : Options) : ∀ (fuel : Nat) (first : Bool)
    {before text : List Char}, source = before ++ text →
      Advance source (utf8Length before)
        (readBlocks options source fuel first (utf8Length before) text).diagnostics
        (readBlocks options source fuel first (utf8Length before) text).rest
  | 0, _, _, _, hsource =>
      .goesOn hsource (Nat.le_refl _) .nil fun _ hd => absurd hd List.not_mem_nil
  | fuel + 1, first, before, text, hsource => by
      have hblock := readBlock_advance hsource options first
      rw [readBlocks]
      dsimp only
      split
      · rename_i pos rest hrest
        rw [hrest] at hblock
        obtain ⟨next, hplace, rfl, -⟩ := hblock.place
        exact hblock.append (readBlocks_advance options fuel false hplace)
      · exact hblock

end Gapfill
