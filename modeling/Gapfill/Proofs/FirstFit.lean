import Gapfill.Proofs.LineAssignment
import Mathlib.Data.List.ReduceOption

/-!
# First fit

Each expression takes the first line that it accepts and that no expression before
it has taken, and goes without a line only if there is none (`assign_firstFit`).
This is the law that the other results on assignments come from: what one
expression leaves open to the next ones (`openTo_afterTaking`), and from it, by
induction on the expressions, what each of them finds (`assignLines_firstFit`).

An assignment made in this way need not be a greatest one. But it cannot be
extended: where an expression accepts a line, one of the two is taken. So in any
other one-to-one assignment each pair has its expression or its line among those
taken here, and it has twice as many pairs at most (`assign_maximal`). There are
expressions and lines where it has twice as many (`half_of_the_lines`).
-/

namespace Gapfill

/-! ## The first of the open lines -/

/-- The least number with a property, or nothing if no number has it. -/
def IsFirst (P : Nat → Prop) : Option Nat → Prop
  | none => ∀ i, ¬ P i
  | some i => P i ∧ ∀ j < i, ¬ P j

theorem IsFirst.congr {P Q : Nat → Prop} {found : Option Nat} (hfirst : IsFirst P found)
    (h : ∀ i, P i ↔ Q i) : IsFirst Q found := by
  obtain rfl : P = Q := funext fun i => propext (h i)
  exact hfirst

/-- Line `i` is free, and the expression accepts it. -/
def OpenTo (accepts : List Char → Bool) (lines : List (Bool × List Char)) (i : Nat) : Prop :=
  ∃ line, lines[i]? = some (false, line) ∧ accepts line = true

theorem firstFree_eq_findIdx? (accepts : List Char → Bool) :
    ∀ (lines : List (Bool × List Char)) (k : Nat),
      firstFree accepts k lines =
        (lines.findIdx? fun line => !line.1 && accepts line.2).map (k + ·)
  | [], _ => rfl
  | line :: rest, k => by
      rw [firstFree, List.findIdx?_cons, firstFree_eq_findIdx? accepts rest (k + 1)]
      split
      · rfl
      · rw [Option.map_map]
        refine congrArg (Option.map · _) (funext fun i => ?_)
        dsimp only [Function.comp]
        omega

theorem openTo_iff {accepts : List Char → Bool} {lines : List (Bool × List Char)} {i : Nat} :
    OpenTo accepts lines i ↔
      ∃ line, lines[i]? = some line ∧ (!line.1 && accepts line.2) = true := by
  constructor
  · rintro ⟨line, hline, haccepts⟩
    exact ⟨_, hline, by simpa using haccepts⟩
  · rintro ⟨⟨taken, line⟩, hline, h⟩
    obtain ⟨rfl, haccepts⟩ : taken = false ∧ accepts line = true := by simpa using h
    exact ⟨line, hline, haccepts⟩

theorem firstFree_isFirst (accepts : List Char → Bool) (lines : List (Bool × List Char)) :
    IsFirst (OpenTo accepts lines) (firstFree accepts 0 lines) := by
  rw [firstFree_eq_findIdx?]
  cases hfind : lines.findIdx? fun line => !line.1 && accepts line.2 with
  | none =>
      intro i hi
      obtain ⟨line, hline, h⟩ := openTo_iff.mp hi
      have hrefused := List.findIdx?_eq_none_iff.mp hfind line (List.mem_of_getElem? hline)
      exact Bool.false_ne_true (hrefused.symm.trans h)
  | some i =>
      obtain ⟨hlt, h, hbefore⟩ := List.findIdx?_eq_some_iff_getElem.mp hfind
      rw [Option.map_some, Nat.zero_add]
      refine ⟨openTo_iff.mpr ⟨_, List.getElem?_eq_getElem hlt, h⟩, fun j hj hopen => ?_⟩
      obtain ⟨line, hline, haccepted⟩ := openTo_iff.mp hopen
      obtain ⟨_, rfl⟩ := List.getElem?_eq_some_iff.mp hline
      exact hbefore j hj haccepted

/-! ## One expression after the other -/

/-- The lines once an expression has taken the one that it found. -/
def afterTaking (lines : List (Bool × List Char)) : Option Nat → List (Bool × List Char)
  | none => lines
  | some i => lines.modify i fun line => (true, line.2)

theorem assignLines_cons_fst (accepts : List Char → Bool) (rest : List (List Char → Bool))
    (lines : List (Bool × List Char)) :
    (assignLines (accepts :: rest) lines).1 =
      firstFree accepts 0 lines
        :: (assignLines rest (afterTaking lines (firstFree accepts 0 lines))).1 := by
  rw [assignLines]
  cases firstFree accepts 0 lines <;> rfl

/-- What is open afterwards was open before, and is another line. -/
theorem openTo_afterTaking {accepts : List Char → Bool} {lines : List (Bool × List Char)}
    {found : Option Nat} {i : Nat} :
    OpenTo accepts (afterTaking lines found) i ↔
      OpenTo accepts lines i ∧ found ≠ some i := by
  cases found with
  | none => simp [afterTaking]
  | some j =>
      unfold OpenTo afterTaking
      dsimp only
      rw [List.getElem?_modify]
      by_cases hij : j = i
      · subst hij
        simp
      · simp [hij]

/-- All expressions: each finds the first line that is open to it at the start and that no
expression before it finds. -/
theorem assignLines_firstFit {accepts : List Char → Bool} {found : Option Nat} :
    ∀ {expressions : List (List Char → Bool)} {lines : List (Bool × List Char)} {e : Nat},
      expressions[e]? = some accepts → (assignLines expressions lines).1[e]? = some found →
      IsFirst (fun i => OpenTo accepts lines i
        ∧ ∀ f < e, (assignLines expressions lines).1[f]? ≠ some (some i)) found
  | [], _, _, h, _ => by simp at h
  | first :: rest, lines, 0, h, hfound => by
      obtain rfl : first = accepts := by simpa using h
      rw [assignLines_cons_fst] at hfound ⊢
      obtain rfl : firstFree first 0 lines = found := Option.some.inj hfound
      exact (firstFree_isFirst first lines).congr fun i => by simp
  | first :: rest, lines, e + 1, h, hfound => by
      rw [assignLines_cons_fst] at hfound ⊢
      refine (assignLines_firstFit (List.getElem?_cons_succ ▸ h) hfound).congr fun i => ?_
      rw [openTo_afterTaking, and_assoc]
      refine and_congr_right fun _ => ⟨?_, ?_⟩
      · rintro ⟨hne, hbefore⟩ f hf
        cases f with
        | zero => exact fun heq => hne (Option.some.inj heq)
        | succ f => exact hbefore f (Nat.lt_of_succ_lt_succ hf)
      · intro hbefore
        exact ⟨fun heq => hbefore 0 (Nat.succ_pos e) (congrArg some heq),
          fun f hf => hbefore (f + 1) (Nat.succ_lt_succ hf)⟩

theorem length_assignLines (expressions : List (List Char → Bool)) :
    ∀ lines : List (Bool × List Char),
      (assignLines expressions lines).1.length = expressions.length := by
  induction expressions with
  | nil =>
      intro lines
      rfl
  | cons accepts rest ih =>
      intro lines
      rw [assignLines_cons_fst, List.length_cons, List.length_cons, ih]

/-! ## The law of an assignment -/

section Assignment

variable {expressions : List (List Char → Bool)} {lines : List (List Char)}

/-- Expression `e` accepts line `i`. -/
def Suits (expressions : List (List Char → Bool)) (lines : List (List Char)) (e i : Nat) : Prop :=
  ∃ accepts line, expressions[e]? = some accepts ∧ lines[i]? = some line ∧ accepts line = true

theorem openTo_start {accepts : List Char → Bool} {e i : Nat}
    (he : expressions[e]? = some accepts) :
    OpenTo accepts (lines.map fun line => (false, line)) i ↔ Suits expressions lines e i := by
  simp [OpenTo, Suits, he]

theorem length_lineOf (expressions : List (List Char → Bool)) (lines : List (List Char)) :
    (assign expressions lines).lineOf.length = expressions.length :=
  length_assignLines expressions _

/-- Each expression has the first line that it accepts and that none before it has. -/
theorem assign_firstFit {e : Nat} {found : Option Nat}
    (h : (assign expressions lines).lineOf[e]? = some found) :
    IsFirst (fun i => Suits expressions lines e i
      ∧ ∀ f < e, (assign expressions lines).lineOf[f]? ≠ some (some i)) found := by
  obtain ⟨hlt, -⟩ := List.getElem?_eq_some_iff.mp h
  rw [length_lineOf] at hlt
  have hget := List.getElem?_eq_getElem hlt
  exact (assignLines_firstFit hget h).congr fun i => and_congr_left' (openTo_start hget)

theorem suits_of_lineOf {e i : Nat} (h : (assign expressions lines).lineOf[e]? = some (some i)) :
    Suits expressions lines e i
      ∧ ∀ f < e, (assign expressions lines).lineOf[f]? ≠ some (some i) :=
  (assign_firstFit h).1

/-- An expression without a line accepts only lines that expressions before it have. -/
theorem exists_earlier_of_lineOf_eq_none {e i : Nat}
    (h : (assign expressions lines).lineOf[e]? = some none) (hsuits : Suits expressions lines e i) :
    ∃ f < e, (assign expressions lines).lineOf[f]? = some (some i) := by
  by_contra hnone
  exact assign_firstFit h i ⟨hsuits, fun f hf heq => hnone ⟨f, hf, heq⟩⟩

/-! ## One-to-one assignments -/

/-- Lines for expressions, as far as they have any: each is accepted, and none occurs twice. -/
structure OneToOne (expressions : List (List Char → Bool)) (lines : List (List Char))
    (lineOf : List (Option Nat)) : Prop where
  length_eq : lineOf.length = expressions.length
  nodup : lineOf.reduceOption.Nodup
  suits : ∀ {e i : Nat}, lineOf[e]? = some (some i) → Suits expressions lines e i

theorem nodup_reduceOption {lineOf : List (Option Nat)}
    (h : ∀ e i : Nat, lineOf[e]? = some (some i) → ∀ f < e, lineOf[f]? ≠ some (some i)) :
    lineOf.reduceOption.Nodup := by
  unfold List.reduceOption List.Nodup
  rw [List.pairwise_filterMap, List.pairwise_iff_getElem]
  intro f e hf he hlt i hi j hj hij
  subst hij
  have hf' : lineOf[f]? = some (some i) := (List.getElem?_eq_getElem hf).trans (congrArg some hi)
  have he' : lineOf[e]? = some (some i) := (List.getElem?_eq_getElem he).trans (congrArg some hj)
  exact h e i he' f hlt hf'

theorem assign_oneToOne (expressions : List (List Char → Bool)) (lines : List (List Char)) :
    OneToOne expressions lines (assign expressions lines).lineOf :=
  ⟨length_lineOf expressions lines, nodup_reduceOption fun _ _ h => (suits_of_lineOf h).2,
    fun h => (suits_of_lineOf h).1⟩

end Assignment

theorem countP_isSome_eq (lineOf : List (Option Nat)) :
    lineOf.countP Option.isSome = lineOf.reduceOption.length := by
  rw [List.countP_eq_length_filter, List.reduceOption_length_eq]

/-- The lines that one assignment gives to expressions which have none in another. -/
def linesGained : List (Option Nat) → List (Option Nat) → List Nat
  | some i :: other, none :: lineOf => i :: linesGained other lineOf
  | _ :: other, _ :: lineOf => linesGained other lineOf
  | _, _ => []

theorem exists_of_mem_linesGained {i : Nat} : ∀ {other lineOf : List (Option Nat)},
    i ∈ linesGained other lineOf →
      ∃ e : Nat, other[e]? = some (some i) ∧ lineOf[e]? = some none := by
  intro other lineOf h
  fun_induction linesGained other lineOf with
  | case1 k other lineOf ih =>
      rcases List.mem_cons.mp h with rfl | h
      · exact ⟨0, rfl, rfl⟩
      · obtain ⟨e, hother, hline⟩ := ih h
        exact ⟨e + 1, hother, hline⟩
  | case2 _ other _ lineOf _ ih =>
      obtain ⟨e, hother, hline⟩ := ih h
      exact ⟨e + 1, hother, hline⟩
  | case3 => simp at h

theorem linesGained_sublist (other lineOf : List (Option Nat)) :
    (linesGained other lineOf).Sublist other.reduceOption := by
  fun_induction linesGained other lineOf with
  | case1 i other lineOf ih =>
      rw [List.reduceOption_cons_of_some]
      exact ih.cons_cons i
  | case2 found other _ lineOf _ ih =>
      cases found with
      | none => exact List.reduceOption_cons_of_none other ▸ ih
      | some i => exact List.reduceOption_cons_of_some i other ▸ ih.cons i
  | case3 => exact List.nil_sublist _

/-- Each expression with a line in the first assignment has one in the second, or its line counts as
gained. -/
theorem countP_le_add_linesGained {other lineOf : List (Option Nat)}
    (hlength : other.length ≤ lineOf.length) :
    other.countP Option.isSome ≤
      lineOf.countP Option.isSome + (linesGained other lineOf).length := by
  fun_induction linesGained other lineOf with
  | case1 i other lineOf ih =>
      have hrest := ih (Nat.le_of_succ_le_succ hlength)
      simp only [List.countP_cons, Option.isSome_some, Option.isSome_none, if_true,
        List.length_cons, Bool.false_eq_true, if_false]
      omega
  | case2 found other found' lineOf hne ih =>
      have hrest := ih (Nat.le_of_succ_le_succ hlength)
      have hhead : (if found.isSome = true then 1 else 0) ≤
          if found'.isSome = true then 1 else 0 := by
        cases found with
        | none => exact Nat.zero_le _
        | some i =>
            cases found' with
            | none => exact absurd rfl (hne i rfl)
            | some j => exact Nat.le_refl 1
      rw [List.countP_cons, List.countP_cons]
      omega
  | case3 other lineOf _ hnil =>
      cases other with
      | nil => exact Nat.zero_le _
      | cons found other =>
          cases lineOf with
          | nil => simp at hlength
          | cons found' lineOf => exact (hnil _ _ _ _ rfl rfl).elim

/-- An assignment is one-to-one, and cannot be extended: an expression without a line accepts only
lines that expressions before it have. Each line is found by an expression or wrong. Whatever
one-to-one assignment there is, not more than twice as many expressions have a line in it. -/
theorem assign_maximal (expressions : List (List Char → Bool)) (lines : List (List Char)) :
    OneToOne expressions lines (assign expressions lines).lineOf
      ∧ (∀ e i : Nat, (assign expressions lines).lineOf[e]? = some none →
        Suits expressions lines e i →
        ∃ f < e, (assign expressions lines).lineOf[f]? = some (some i))
      ∧ (assign expressions lines).matched + (assign expressions lines).wrongLines =
        (assign expressions lines).answerLines
      ∧ ∀ other, OneToOne expressions lines other →
        other.countP Option.isSome ≤ 2 * (assign expressions lines).matched := by
  refine ⟨assign_oneToOne expressions lines, fun e i => exists_earlier_of_lineOf_eq_none,
    assign_matched_add_wrongLines expressions lines, fun other hother => ?_⟩
  have hgained : linesGained other (assign expressions lines).lineOf ⊆
      (assign expressions lines).lineOf.reduceOption := by
    intro i hi
    obtain ⟨e, hline, hnone⟩ := exists_of_mem_linesGained hi
    obtain ⟨f, -, hf⟩ := exists_earlier_of_lineOf_eq_none hnone (hother.suits hline)
    exact List.reduceOption_mem_iff.mpr (List.mem_of_getElem? hf)
  have hlength : other.length ≤ (assign expressions lines).lineOf.length :=
    Nat.le_of_eq (hother.length_eq.trans (length_lineOf expressions lines).symm)
  have hmatched : (assign expressions lines).matched =
      (assign expressions lines).lineOf.countP Option.isSome := rfl
  calc other.countP Option.isSome
      ≤ (assign expressions lines).matched
          + (linesGained other (assign expressions lines).lineOf).length :=
        countP_le_add_linesGained hlength
    _ ≤ (assign expressions lines).matched
          + (assign expressions lines).lineOf.reduceOption.length :=
        Nat.add_le_add_left ((hother.nodup.sublist
          (linesGained_sublist _ _)).length_le_of_subset hgained) _
    _ = 2 * (assign expressions lines).matched := by
        rw [← countP_isSome_eq, ← hmatched, Nat.two_mul]

/-- Two expressions, of which the first accepts what the second accepts, and more. -/
def overlapping : List (List Char → Bool) := [fun line => line != [], fun line => line == ['a']]

def overlappingLines : List (List Char) := [['a'], ['b']]

theorem overlapping_exchanged : OneToOne overlapping overlappingLines [some 1, some 0] where
  length_eq := rfl
  nodup := by decide
  suits {e i} h := by
    match e with
    | 0 =>
        obtain rfl : 1 = i := by simpa using h
        exact ⟨_, _, rfl, rfl, by decide⟩
    | 1 =>
        obtain rfl : 0 = i := by simpa using h
        exact ⟨_, _, rfl, rfl, by decide⟩
    | e + 2 => simp at h

/-- The bound is attained: the first expression takes the only line of the second one. -/
theorem half_of_the_lines :
    (assign overlapping overlappingLines).lineOf = [some 0, none]
      ∧ OneToOne overlapping overlappingLines [some 1, some 0]
      ∧ [some 1, some 0].countP Option.isSome ≤ 2 * (assign overlapping overlappingLines).matched
      ∧ 2 * (assign overlapping overlappingLines).matched = 2 :=
  ⟨by decide, overlapping_exchanged,
    (assign_maximal overlapping overlappingLines).2.2.2 _ overlapping_exchanged, by decide⟩

end Gapfill
