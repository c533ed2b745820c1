import Gapfill.Pattern.Regex

/-!
# What an expression matches

An assertion looks at the characters beside its place, so a language here is a
set of words *in their places*: a word comes with the character before it and
the character after it. `Regex.Matches` gives every expression its language by
recursion on the expression; a counted repetition is a number of rounds
(`Language.rounds`).

Nothing in a pattern negates an expression. Hence every constructor is monotone
in the languages of its parts (`Language.Sub`), and an expression only gains
words when a part of it does.
-/

namespace Gapfill.Pattern

/-! ## Neighbours of a word -/

/-- The character before what follows the word, where `b` stands before the word. -/
def charBefore (b : Option Char) : List Char → Option Char
  | [] => b
  | c :: u => charBefore (some c) u

/-- The character after what precedes the word, where `n` stands after the word. -/
def charNext : List Char → Option Char → Option Char
  | [], n => n
  | c :: _, _ => some c

@[simp] theorem charBefore_nil (b : Option Char) : charBefore b [] = b := rfl

@[simp] theorem charBefore_cons (b : Option Char) (c : Char) (u : List Char) :
    charBefore b (c :: u) = charBefore (some c) u := rfl

@[simp] theorem charNext_nil (n : Option Char) : charNext [] n = n := rfl

@[simp] theorem charNext_cons (c : Char) (u : List Char) (n : Option Char) :
    charNext (c :: u) n = some c := rfl

@[simp] theorem charBefore_append : ∀ (b : Option Char) (u v : List Char),
    charBefore b (u ++ v) = charBefore (charBefore b u) v
  | _, [], _ => rfl
  | _, c :: u, v => charBefore_append (some c) u v

@[simp] theorem charNext_append (u v : List Char) (n : Option Char) :
    charNext (u ++ v) n = charNext u (charNext v n) := by
  cases u <;> rfl

/-- At the end of a nonempty word some character comes before. -/
theorem charBefore_eq_none {b : Option Char} : ∀ {u : List Char},
    charBefore b u = none → u = [] ∧ b = none
  | [], h => ⟨rfl, h⟩
  | c :: u, h => by
      obtain ⟨-, hc⟩ := charBefore_eq_none (b := some c) (u := u) h
      simp at hc

theorem charNext_eq_none {u : List Char} {n : Option Char} (h : charNext u n = none) :
    u = [] ∧ n = none := by
  cases u with
  | nil => exact ⟨rfl, h⟩
  | cons c u => simp at h

/-! ## Languages -/

/-- A set of words, each between the character before it and the character after it. -/
abbrev Language := Option Char → List Char → Option Char → Prop

namespace Language

/-- A word of `L` and then a word of `M`. -/
def cat (L M : Language) : Language := fun b w n =>
  ∃ u v, w = u ++ v ∧ L b u (charNext v n) ∧ M (charBefore b u) v n

/-- So many words of `L` one after the other. -/
def rounds (L : Language) : Nat → Language
  | 0 => fun _ w _ => w = []
  | k + 1 => cat L (rounds L k)

/-- Every word of `L` is one of `M`, at the same place. -/
def Sub (L M : Language) : Prop := ∀ {b w n}, L b w n → M b w n

theorem Sub.refl (L : Language) : Sub L L := id

theorem Sub.cat {L L' M M' : Language} (h : Sub L L') (h' : Sub M M') :
    Sub (cat L M) (cat L' M') := by
  rintro b w n ⟨u, v, hw, hu, hv⟩
  exact ⟨u, v, hw, h hu, h' hv⟩

theorem Sub.rounds {L L' : Language} (h : Sub L L') : ∀ k, Sub (rounds L k) (rounds L' k)
  | 0 => id
  | k + 1 => Sub.cat h (Sub.rounds h k)

/-- The empty text in one place can be read any number of times. -/
theorem rounds_nil_of {L : Language} {b n : Option Char} (h : L b [] n) : ∀ k, rounds L k b [] n
  | 0 => rfl
  | k + 1 => ⟨[], [], rfl, h, rounds_nil_of h k⟩

/-- Rounds that read nothing at all are none, or one of them reads nothing. -/
theorem rounds_nil {L : Language} {k : Nat} {b n : Option Char} (h : rounds L k b [] n) :
    k = 0 ∨ L b [] n := by
  cases k with
  | zero => exact Or.inl rfl
  | succ k =>
      obtain ⟨u, v, hw, hu, -⟩ := h
      obtain ⟨rfl, rfl⟩ := List.append_eq_nil_iff.mp hw.symm
      exact Or.inr hu

/-- Rounds of a nonempty word: some empty ones, and then the one that reads the first
character. -/
theorem rounds_cons {L : Language} {k : Nat} {b n : Option Char} {c : Char} {w : List Char}
    (h : rounds L k b (c :: w) n) :
    ∃ j u v, j < k ∧ w = u ++ v ∧ (k ≠ j + 1 → L b [] (some c))
      ∧ L b (c :: u) (charNext v n) ∧ rounds L j (charBefore b (c :: u)) v n := by
  induction k with
  | zero => exact absurd h (by simp [rounds])
  | succ k ih =>
      obtain ⟨u, v, hw, hu, hv⟩ := h
      cases u with
      | nil =>
          obtain rfl : c :: w = v := hw
          obtain ⟨j, u', v', hj, hw', -, hu', hv'⟩ := ih hv
          exact ⟨j, u', v', Nat.lt_succ_of_lt hj, hw', fun _ => hu, hu', hv'⟩
      | cons d u =>
          obtain ⟨rfl, rfl⟩ := List.cons.inj hw
          exact ⟨k, u, v, Nat.lt_succ_self k, rfl, fun hne => absurd rfl hne, hu, hv⟩

/-- More rounds in front, all of which read nothing. -/
theorem rounds_add_nil {L : Language} {b n : Option Char} {w : List Char} {j : Nat}
    (h : L b [] (charNext w n)) (hr : rounds L j b w n) : ∀ i, rounds L (i + j) b w n
  | 0 => by simpa using hr
  | i + 1 => by
      have hrest := rounds_add_nil h hr i
      rw [show i + 1 + j = (i + j) + 1 by omega]
      exact ⟨[], w, rfl, h, hrest⟩

end Language

/-! ## The language of an expression -/

namespace Regex

/-- The words that an expression matches, each in its place. -/
def Matches : Regex → Language
  | empty => fun _ w _ => w = []
  | chars set => fun _ w _ => ∃ c, w = [c] ∧ set.mem c = true
  | look l => fun b w n => w = [] ∧ l.holds ⟨b, n⟩ = true
  | cat a b => Language.cat a.Matches b.Matches
  | alt a b => fun p w n => a.Matches p w n ∨ b.Matches p w n
  | rep r min max => fun b w n =>
      ∃ k, min ≤ k ∧ (∀ m, max = some m → k ≤ m) ∧ Language.rounds r.Matches k b w n

/-- No repetition asks for more rounds than it allows. -/
def Bounded : Regex → Prop
  | empty => True
  | chars _ => True
  | look _ => True
  | cat a b => a.Bounded ∧ b.Bounded
  | alt a b => a.Bounded ∧ b.Bounded
  | rep r min max => r.Bounded ∧ ∀ m, max = some m → min ≤ m

/-- Every word of the one expression is a word of the other. -/
def Widens (r r' : Regex) : Prop := Language.Sub r.Matches r'.Matches

theorem Widens.refl (r : Regex) : Widens r r := Language.Sub.refl _

theorem Widens.rep {r r' : Regex} (h : Widens r r') (min : Nat) (max : Option Nat) :
    Widens (.rep r min max) (.rep r' min max) := by
  rintro b w n ⟨k, hmin, hmax, hk⟩
  exact ⟨k, hmin, hmax, Language.Sub.rounds h k hk⟩

/-! ## Sequences and alternatives of a list -/

/-- The words of the expressions of a list, one after the other. -/
def MatchesAll : List Regex → Language
  | [] => fun _ w _ => w = []
  | r :: rs => Language.cat r.Matches (MatchesAll rs)

theorem catOf_matches : ∀ (rs : List Regex) {b : Option Char} {w : List Char} {n : Option Char},
    (catOf rs).Matches b w n ↔ MatchesAll rs b w n
  | [], _, _, _ => Iff.rfl
  | [r], b, w, n => by
      constructor
      · intro h
        exact ⟨w, [], (List.append_nil w).symm, h, rfl⟩
      · rintro ⟨u, v, rfl, hu, rfl⟩
        simpa [catOf] using hu
  | r :: s :: rs, b, w, n => by
      constructor
      · rintro ⟨u, v, hw, hu, hv⟩
        exact ⟨u, v, hw, hu, (catOf_matches (s :: rs)).mp hv⟩
      · rintro ⟨u, v, hw, hu, hv⟩
        exact ⟨u, v, hw, hu, (catOf_matches (s :: rs)).mpr hv⟩

theorem matchesAll_append : ∀ (rs ss : List Regex) {b : Option Char} {w : List Char}
    {n : Option Char},
    MatchesAll (rs ++ ss) b w n ↔ Language.cat (MatchesAll rs) (MatchesAll ss) b w n
  | [], ss, b, w, n => by
      constructor
      · intro h
        exact ⟨[], w, rfl, rfl, h⟩
      · rintro ⟨u, v, rfl, rfl, hv⟩
        exact hv
  | r :: rs, ss, b, w, n => by
      constructor
      · rintro ⟨u, v, rfl, hu, hv⟩
        obtain ⟨x, y, rfl, hx, hy⟩ := (matchesAll_append rs ss).mp hv
        refine ⟨u ++ x, y, by simp, ⟨u, x, rfl, by simpa using hu, hx⟩, by simpa using hy⟩
      · rintro ⟨u, v, rfl, ⟨x, y, rfl, hx, hy⟩, hv⟩
        exact ⟨x, y ++ v, by simp, by simpa using hx,
          (matchesAll_append rs ss).mpr ⟨y, v, rfl, hy, by simpa using hv⟩⟩

theorem altOf_matches {rs : List Regex} (hne : rs ≠ []) {b : Option Char} {w : List Char}
    {n : Option Char} : (altOf rs).Matches b w n ↔ ∃ r ∈ rs, r.Matches b w n := by
  induction rs with
  | nil => exact absurd rfl hne
  | cons r rs ih =>
      cases rs with
      | nil => simp [altOf]
      | cons s rs =>
          rw [show altOf (r :: s :: rs) = .alt r (altOf (s :: rs)) from rfl]
          simp only [Matches, ih (by simp), List.mem_cons, exists_eq_or_imp]

end Regex

end Gapfill.Pattern
