import Gapfill.Number.Binary64

/-!
# The order of numbers

Numbers compare by their places, which are integers, and both zeros have the same
place; what is no number has none and compares with nothing (`lt_iff`, `le_iff`,
`same_iff`). So comparisons chain as those of integers do, and two that hold say
by themselves that numbers are compared. Only where a comparison fails must that
be known (`le_of_not_lt`).

A maximum is told by what it is the maximum of (`IsMaximum`), which says nothing
about an order or a grouping: it is determined but for the sign of zero
(`IsMaximum.same`), and the greatest of several maxima is one
(`isMaximum_foldl_max`).
-/

namespace Gapfill

namespace Binary64

/-- The place of a number in the order. -/
def place? : Binary64 → Option Int
  | nan => none
  | signed negative rank _ => some (key negative rank)

section Comparisons

variable {a b c : Binary64}

/-- Two numbers compare if they are numbers and their places do. -/
theorem compare_iff {r : Binary64 → Binary64 → Bool} {p : Int → Int → Prop}
    (hleft : ∀ b, r nan b = false) (hright : ∀ a, r a nan = false)
    (hsigned : ∀ s i hi t j hj, r (signed s i hi) (signed t j hj) = true ↔ p (key s i) (key t j)) :
    r a b = true ↔ ∃ i j, a.place? = some i ∧ b.place? = some j ∧ p i j := by
  cases a with
  | nan =>
      rw [hleft]
      exact ⟨nofun, fun ⟨_, _, ha, _⟩ => absurd ha nofun⟩
  | signed s i hi =>
      cases b with
      | nan =>
          rw [hright]
          exact ⟨nofun, fun ⟨_, _, _, hb, _⟩ => absurd hb nofun⟩
      | signed t j hj =>
          rw [hsigned]
          constructor
          · exact fun h => ⟨_, _, rfl, rfl, h⟩
          · rintro ⟨_, _, ha, hb, h⟩
            obtain rfl := Option.some.inj ha
            obtain rfl := Option.some.inj hb
            exact h

theorem lt_nan (a : Binary64) : lt a nan = false := by
  cases a <;> rfl

theorem le_nan (a : Binary64) : le a nan = false := by
  cases a <;> rfl

theorem same_nan (a : Binary64) : same a nan = false := by
  cases a <;> rfl

theorem lt_iff : lt a b = true ↔ ∃ i j, a.place? = some i ∧ b.place? = some j ∧ i < j :=
  compare_iff (fun _ => rfl) lt_nan fun _ _ _ _ _ _ => decide_eq_true_iff

theorem le_iff : le a b = true ↔ ∃ i j, a.place? = some i ∧ b.place? = some j ∧ i ≤ j :=
  compare_iff (fun _ => rfl) le_nan fun _ _ _ _ _ _ => decide_eq_true_iff

theorem same_iff : same a b = true ↔ ∃ i, a.place? = some i ∧ b.place? = some i := by
  rw [compare_iff (fun _ => rfl) same_nan fun _ _ _ _ _ _ => beq_iff_eq]
  constructor
  · rintro ⟨i, _, hi, hj, rfl⟩
    exact ⟨i, hi, hj⟩
  · exact fun ⟨i, hi, hj⟩ => ⟨i, i, hi, hj, rfl⟩

theorem exists_place (h : a ≠ nan) : ∃ i, a.place? = some i := by
  cases a with
  | nan => exact absurd rfl h
  | signed negative rank hrank => exact ⟨_, rfl⟩

theorem le_refl (h : a ≠ nan) : le a a = true := by
  obtain ⟨i, hi⟩ := exists_place h
  exact le_iff.mpr ⟨i, i, hi, hi, Int.le_refl i⟩

theorem ne_nan_of_le (h : le a b = true) : a ≠ nan ∧ b ≠ nan := by
  obtain ⟨i, j, hi, hj, -⟩ := le_iff.mp h
  constructor <;> rintro rfl
  · exact absurd hi nofun
  · exact absurd hj nofun

theorem same_refl (h : a ≠ nan) : same a a = true := by
  obtain ⟨i, hi⟩ := exists_place h
  exact same_iff.mpr ⟨i, hi, hi⟩

theorem le_of_lt (h : lt a b = true) : le a b = true := by
  obtain ⟨i, j, hi, hj, hlt⟩ := lt_iff.mp h
  exact le_iff.mpr ⟨i, j, hi, hj, Int.le_of_lt hlt⟩

theorem le_trans (h : le a b = true) (h' : le b c = true) : le a c = true := by
  obtain ⟨i, j, hi, hj, hij⟩ := le_iff.mp h
  obtain ⟨j', k, hj', hk, hjk⟩ := le_iff.mp h'
  obtain rfl := Option.some.inj (hj.symm.trans hj')
  exact le_iff.mpr ⟨i, k, hi, hk, Int.le_trans hij hjk⟩

theorem lt_of_lt_of_le (h : lt a b = true) (h' : le b c = true) : lt a c = true := by
  obtain ⟨i, j, hi, hj, hij⟩ := lt_iff.mp h
  obtain ⟨j', k, hj', hk, hjk⟩ := le_iff.mp h'
  obtain rfl := Option.some.inj (hj.symm.trans hj')
  exact lt_iff.mpr ⟨i, k, hi, hk, Int.lt_of_lt_of_le hij hjk⟩

theorem lt_of_le_of_lt (h : le a b = true) (h' : lt b c = true) : lt a c = true := by
  obtain ⟨i, j, hi, hj, hij⟩ := le_iff.mp h
  obtain ⟨j', k, hj', hk, hjk⟩ := lt_iff.mp h'
  obtain rfl := Option.some.inj (hj.symm.trans hj')
  exact lt_iff.mpr ⟨i, k, hi, hk, Int.lt_of_le_of_lt hij hjk⟩

theorem same_of_le_of_le (h : le a b = true) (h' : le b a = true) : same a b = true := by
  obtain ⟨i, j, hi, hj, hij⟩ := le_iff.mp h
  obtain ⟨j', i', hj', hi', hji⟩ := le_iff.mp h'
  obtain rfl := Option.some.inj (hi.symm.trans hi')
  obtain rfl := Option.some.inj (hj.symm.trans hj')
  exact same_iff.mpr ⟨i, hi, Int.le_antisymm hij hji ▸ hj⟩

theorem le_of_not_lt (ha : a ≠ nan) (hb : b ≠ nan) (h : lt a b = false) : le b a = true := by
  obtain ⟨i, hi⟩ := exists_place ha
  obtain ⟨j, hj⟩ := exists_place hb
  refine le_iff.mpr ⟨j, i, hj, hi, Int.not_lt.mp fun hlt => ?_⟩
  exact Bool.false_ne_true (h.symm.trans (lt_iff.mpr ⟨i, j, hi, hj, hlt⟩))

theorem lt_eq_false_of_le (h : le a b = true) : lt b a = false :=
  Bool.eq_false_iff.mpr fun hlt => by
    obtain ⟨i, j, hi, hj, hij⟩ := lt_iff.mp (lt_of_lt_of_le hlt h)
    obtain rfl := Option.some.inj (hi.symm.trans hj)
    exact Int.lt_irrefl i hij

theorem le_of_same (h : same a b = true) : le a b = true := by
  obtain ⟨i, hi, hj⟩ := same_iff.mp h
  exact le_iff.mpr ⟨i, i, hi, hj, Int.le_refl i⟩

theorem same_symm (h : same a b = true) : same b a = true := by
  obtain ⟨i, hi, hj⟩ := same_iff.mp h
  exact same_iff.mpr ⟨i, hj, hi⟩

theorem same_trans (h : same a b = true) (h' : same b c = true) : same a c = true :=
  same_of_le_of_le (le_trans (le_of_same h) (le_of_same h'))
    (le_trans (le_of_same (same_symm h')) (le_of_same (same_symm h)))

end Comparisons

/-! ## Maxima -/

theorem max_eq_or (a b : Binary64) : max a b = a ∨ max a b = b := by
  unfold max
  split
  · exact Or.inr rfl
  · split
    · exact Or.inr rfl
    · exact Or.inl rfl

theorem le_max {a b : Binary64} (ha : a ≠ nan) (hb : b ≠ nan) :
    le a (max a b) = true ∧ le b (max a b) = true := by
  have hmax : max a b = if lt a b then b else a := by
    cases a with
    | nan => exact absurd rfl ha
    | signed negative rank hrank => rfl
  rw [hmax]
  split
  · exact ⟨le_of_lt ‹_›, le_refl hb⟩
  · exact ⟨le_refl ha, le_of_not_lt ha hb (Bool.eq_false_iff.mpr ‹_›)⟩

/-- The greatest of a list is the one it began with or one of the list. -/
theorem foldl_max_mem : ∀ (xs : List Binary64) (acc : Binary64), xs.foldl max acc ∈ acc :: xs
  | [], acc => List.mem_singleton_self acc
  | x :: xs, acc => by
      rw [List.foldl_cons]
      rcases List.mem_cons.mp (foldl_max_mem xs (max acc x)) with hfold | hmem
      · rcases max_eq_or acc x with hmax | hmax
        · exact List.mem_cons.mpr (Or.inl (hfold.trans hmax))
        · exact List.mem_cons_of_mem acc (List.mem_cons.mpr (Or.inl (hfold.trans hmax)))
      · exact List.mem_cons_of_mem acc (List.mem_cons_of_mem x hmem)

/-- None of them exceeds it, if all are numbers. -/
theorem le_foldl_max : ∀ {xs : List Binary64} {acc : Binary64}, (∀ x ∈ acc :: xs, x ≠ nan) →
    ∀ x ∈ acc :: xs, le x (xs.foldl max acc) = true
  | [], acc, h => List.forall_mem_cons.mpr ⟨le_refl (h acc List.mem_cons_self), by simp⟩
  | y :: ys, acc, h => by
      obtain ⟨hacc, hrest⟩ := List.forall_mem_cons.mp h
      obtain ⟨hy, hys⟩ := List.forall_mem_cons.mp hrest
      have hmax : max acc y ≠ nan := by
        rcases max_eq_or acc y with heq | heq <;> rw [heq] <;> assumption
      obtain ⟨hfirst, hlater⟩ :=
        List.forall_mem_cons.mp (le_foldl_max (List.forall_mem_cons.mpr ⟨hmax, hys⟩))
      obtain ⟨haccle, hyle⟩ := le_max hacc hy
      exact List.forall_mem_cons.mpr ⟨le_trans haccle hfirst,
        List.forall_mem_cons.mpr ⟨le_trans hyle hfirst, hlater⟩⟩

/-- The greatest of the numbers that have a property, or zero if none has it. The sign of zero does
not matter. -/
structure IsMaximum (P : Binary64 → Prop) (x : Binary64) : Prop where
  most : ∀ y, P y → le y x = true
  attained : (∃ y, P y ∧ same x y = true) ∨ (∀ y, ¬ P y) ∧ same x 0 = true

namespace IsMaximum

variable {P Q : Binary64 → Prop} {x y : Binary64}

theorem ne_nan (h : IsMaximum P x) : x ≠ nan := by
  rcases h.attained with ⟨y, -, hsame⟩ | ⟨-, hsame⟩ <;> exact (ne_nan_of_le (le_of_same hsame)).1

theorem congr (h : IsMaximum P x) (hiff : ∀ y, P y ↔ Q y) : IsMaximum Q x :=
  (funext fun y => propext (hiff y) : P = Q) ▸ h

theorem same (h : IsMaximum P x) (h' : IsMaximum P y) : same x y = true := by
  rcases h.attained with ⟨a, ha, hxa⟩ | ⟨hno, hx⟩
  · rcases h'.attained with ⟨b, hb, hyb⟩ | ⟨hno, -⟩
    · exact same_of_le_of_le (le_trans (le_of_same hxa) (h'.most a ha))
        (le_trans (le_of_same hyb) (h.most b hb))
    · exact absurd ha (hno a)
  · rcases h'.attained with ⟨b, hb, -⟩ | ⟨-, hy⟩
    · exact absurd hb (hno b)
    · exact same_trans hx (same_symm hy)

/-- Of numbers that are not negative, zero is the greatest if it is not exceeded. -/
theorem of_same_zero (hmost : ∀ y, P y → le y x = true) (hnonneg : ∀ y, P y → le 0 y = true)
    (hzero : Binary64.same x 0 = true) : IsMaximum P x where
  most := hmost
  attained := by
    by_cases hsome : ∃ y, P y
    · obtain ⟨y, hy⟩ := hsome
      exact Or.inl ⟨y, hy,
        same_of_le_of_le (le_trans (le_of_same hzero) (hnonneg y hy)) (hmost y hy)⟩
    · exact Or.inr ⟨not_exists.mp hsome, hzero⟩

end IsMaximum

/-- The greatest of several maxima is the maximum of all the numbers together. -/
theorem isMaximum_foldl_max {α : Type} {P : α → Binary64 → Prop} {f : α → Binary64} {xs : List α}
    (h : ∀ a ∈ xs, IsMaximum (P a) (f a)) (hnonneg : ∀ a ∈ xs, ∀ y, P a y → le 0 y = true) :
    IsMaximum (fun y => ∃ a ∈ xs, P a y) ((xs.map f).foldl max 0) := by
  have hzero : (0 : Binary64) ≠ nan := by decide +kernel
  have hbound := le_foldl_max (List.forall_mem_cons.mpr
    ⟨hzero, List.forall_mem_map.mpr fun a ha => (h a ha).ne_nan⟩)
  have hmost : ∀ y, (∃ a ∈ xs, P a y) → le y ((xs.map f).foldl max 0) = true := by
    rintro y ⟨a, ha, hy⟩
    exact le_trans ((h a ha).most y hy)
      (hbound _ (List.mem_cons_of_mem 0 (List.mem_map_of_mem ha)))
  have hall : ∀ y, (∃ a ∈ xs, P a y) → le 0 y = true := fun y ⟨a, ha, hy⟩ => hnonneg a ha y hy
  rcases List.mem_cons.mp (foldl_max_mem (xs.map f) 0) with hfold | hmem
  · refine .of_same_zero hmost hall ?_
    rw [hfold]
    exact same_refl hzero
  · obtain ⟨a, ha, hfold⟩ := List.mem_map.mp hmem
    rcases (h a ha).attained with ⟨y, hy, hsame⟩ | ⟨-, hsame⟩
    · exact ⟨hmost, Or.inl ⟨y, ⟨a, ha, hy⟩, hfold ▸ hsame⟩⟩
    · exact .of_same_zero hmost hall (hfold ▸ hsame)

end Binary64

end Gapfill
