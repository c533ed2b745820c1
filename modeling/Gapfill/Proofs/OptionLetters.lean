import Mathlib.Data.Bool.AllAny
import Mathlib.Data.List.Basic
import Gapfill.Options

/-!
# The last letter counts

A string of option letters is read from left to right, and a later letter undoes
an earlier one of its option. So what the string does to the options can be told
at once (`Options.setAll_eq`): for each option, the last of its letters says
whether it is on, and without any it stays as it was. This last letter is all that
counts of a string, and the letters that are written for options are the last ones
of every string that leads to them (`Options.withLetters_lastLetters`).
-/

namespace Gapfill

namespace Options

/-! ## Option letters -/

/-- The letters that may stand in a string of option letters. -/
def optionLetters : List Char :=
  ['I', 'D', 'P', 'R', 'O', 'S', 'T', 'i', 'd', 'p', 'r', 'o', 's', 't']

/-- The capital of an option, or its small letter. -/
def IsLetterOf (capital c : Char) : Prop := c = capital ∨ c = capital.toLower

instance (capital c : Char) : Decidable (IsLetterOf capital c) := instDecidableOr

-- All capitals are tried one by one. Left to itself, `decide` would go through all characters.
theorem forall_capitals {P : Char → Prop} [DecidablePred P]
    (h : (capitals.all fun c => P c) = true) : ∀ capital ∈ capitals, P capital :=
  List.all_iff_forall_prop.mp h

theorem isLetterOf_of_toUpper {c capital : Char} (hcapital : capital ∈ capitals)
    (h : c.toUpper = capital) : IsLetterOf capital c := by
  by_cases hlower : 'a'.val ≤ c.val ∧ c.val ≤ 'z'.val
  · have hval : c.val = capital.val - ('A'.val - 'a'.val) := by
      obtain ⟨hvalid, hupper⟩ : ∃ hvalid, c.toUpper = ⟨c.val + ('A'.val - 'a'.val), hvalid⟩ :=
        ⟨_, dif_pos hlower⟩
      rw [← h, hupper, UInt32.add_sub_cancel]
    have hall : ∀ capital ∈ capitals, capital.val - ('A'.val - 'a'.val) = capital.toLower.val :=
      forall_capitals (by decide)
    exact .inr (Char.ext (hval.trans (hall capital hcapital)))
  · exact .inl ((dif_neg hlower).symm.trans h)

theorem isLetter_iff {c : Char} : isLetter c = true ↔ c ∈ optionLetters := by
  constructor
  · intro h
    have hmem : c.toUpper ∈ capitals := List.contains_iff_mem.mp h
    have hall : ∀ capital ∈ capitals,
        capital ∈ optionLetters ∧ capital.toLower ∈ optionLetters := forall_capitals (by decide)
    obtain ⟨hcapital, hsmall⟩ := hall _ hmem
    rcases isLetterOf_of_toUpper hmem rfl with heq | heq
    · rwa [← heq] at hcapital
    · rwa [← heq] at hsmall
  · intro h
    have hall : ∀ c ∈ optionLetters, isLetter c = true := List.all_eq_true.mp (by decide)
    exact hall c h

theorem isLetter_of_set? {options resolved : Options} {letter : Char}
    (h : options.set? letter = some resolved) : isLetter letter = true := by
  unfold set? at h
  unfold isLetter
  dsimp only at h
  split at h <;> first
    | (rename_i heq; rw [heq]; decide)
    | simp at h

/-! ## Last letters -/

/-- The last letter of an option in a string. -/
def lastLetter? (capital : Char) (letters : List Char) : Option Char :=
  (letters.filter (IsLetterOf capital)).getLast?

/-- Whether an option is on after a string: as its last letter says, and if there is none, as
before. -/
def flagAfter (letters : List Char) (capital : Char) (before : Bool) : Bool :=
  (lastLetter? capital letters).elim before Char.isUpper

/-- The options after a string, each as its last letter says. -/
def resolved (o : Options) (letters : List Char) : Options where
  ignoreCase := flagAfter letters 'I' o.ignoreCase
  dotNewline := flagAfter letters 'D' o.dotNewline
  pipeSpace := flagAfter letters 'P' o.pipeSpace
  redirectSpace := flagAfter letters 'R' o.redirectSpace
  anyOrder := flagAfter letters 'O' o.anyOrder
  wideSpace := flagAfter letters 'S' o.wideSpace
  trimEnds := flagAfter letters 'T' o.trimEnds

theorem lastLetter?_append (capital : Char) (u v : List Char) :
    lastLetter? capital (u ++ v) = (lastLetter? capital v).or (lastLetter? capital u) := by
  rw [lastLetter?, List.filter_append, List.getLast?_append]
  rfl

theorem flagAfter_append (u v : List Char) (capital : Char) (before : Bool) :
    flagAfter (u ++ v) capital before = flagAfter v capital (flagAfter u capital before) := by
  unfold flagAfter
  rw [lastLetter?_append]
  cases lastLetter? capital v <;> rfl

theorem resolved_append (o : Options) (u v : List Char) :
    o.resolved (u ++ v) = (o.resolved u).resolved v := by
  simp only [resolved, flagAfter_append]

/-- One letter sets its option. -/
theorem set?_eq {letter : Char} (h : letter ∈ optionLetters) (o : Options) :
    o.set? letter = some (o.resolved [letter]) := by
  simp only [optionLetters, List.mem_cons, List.not_mem_nil, or_false] at h
  rcases h with rfl | rfl | rfl | rfl | rfl | rfl | rfl | rfl | rfl | rfl | rfl | rfl | rfl
    | rfl <;> rfl

theorem set?_eq_none {letter : Char} (h : letter ∉ optionLetters) (o : Options) :
    o.set? letter = none := by
  rw [Option.eq_none_iff_forall_ne_some]
  exact fun next hnext => h (isLetter_iff.mp (isLetter_of_set? hnext))

/-- A string is refused for the first character that is no option letter; else the last letter of
each option counts. -/
theorem setAll_eq (o : Options) (letters : List Char) :
    o.setAll letters = match letters.find? (· ∉ optionLetters) with
      | some c => .error c
      | none => .ok (o.resolved letters) := by
  induction letters generalizing o with
  | nil => rfl
  | cons letter letters ih =>
      by_cases hletter : letter ∈ optionLetters
      · have hcons : o.resolved (letter :: letters) = (o.resolved [letter]).resolved letters :=
          resolved_append o [letter] letters
        rw [setAll, set?_eq hletter, List.find?_cons_of_neg (by simpa using hletter), hcons]
        exact ih _
      · rw [setAll, set?_eq_none hletter, List.find?_cons_of_pos (by simpa using hletter)]

/-! ## Strings with the same effect -/

theorem get_resolved (o : Options) (letters : List Char) {capital : Char}
    (h : capital ∈ capitals) :
    (o.resolved letters).get capital = flagAfter letters capital (o.get capital) := by
  simp only [capitals, List.mem_cons, List.not_mem_nil, or_false] at h
  rcases h with rfl | rfl | rfl | rfl | rfl | rfl | rfl <;> rfl

theorem ext_get {o o' : Options} (h : ∀ capital ∈ capitals, o.get capital = o'.get capital) :
    o = o' := by
  cases o
  cases o'
  simpa [capitals, get] using h

/-- The letter that is written for an option. -/
def letterFor (on : Bool) (capital : Char) : Char := if on then capital else capital.toLower

theorem letters_eq (o : Options) :
    o.letters.toList = capitals.map fun capital => letterFor (o.get capital) capital :=
  String.toList_ofList

/-- The letters that are written for options have one letter for each option. -/
theorem lastLetter?_letters (o : Options) {capital : Char} (h : capital ∈ capitals) :
    lastLetter? capital o.letters.toList = some (letterFor (o.get capital) capital) := by
  have hall : ∀ other ∈ capitals, ∀ on : Bool,
      IsLetterOf capital (letterFor on other) ↔ other = capital := by
    have hpairs : ∀ capital ∈ capitals, (capitals.all fun other => ∀ on : Bool,
        IsLetterOf capital (letterFor on other) ↔ other = capital) = true :=
      forall_capitals (by decide)
    exact forall_capitals (hpairs capital h)
  have hone : ∀ capital ∈ capitals, capitals.filter (· = capital) = [capital] :=
    forall_capitals (by decide)
  have hfilter : capitals.filter ((fun c => decide (IsLetterOf capital c)) ∘
      fun other => letterFor (o.get other) other) = [capital] :=
    (List.filter_congr fun other hother => decide_eq_decide.mpr (hall _ hother _)).trans
      (hone capital h)
  rw [lastLetter?, letters_eq, List.filter_map, hfilter]
  rfl

/-- The last letter of an option is its capital or its small letter. -/
theorem lastLetter?_eq {capital c : Char} {letters : List Char}
    (h : lastLetter? capital letters = some c) : IsLetterOf capital c := by
  have hmem := List.mem_of_getLast? h
  simpa using (List.mem_filter.mp hmem).2

/-- Of the two letters of an option one is a capital, so that they are told apart by it. -/
theorem IsLetterOf.eq_of_isUpper {capital c d : Char} (hcapital : capital ∈ capitals)
    (hc : IsLetterOf capital c) (hd : IsLetterOf capital d) (h : c.isUpper = d.isUpper) :
    c = d := by
  have hall : ∀ capital ∈ capitals, capital.isUpper = true ∧ capital.toLower.isUpper = false :=
    forall_capitals (by decide)
  obtain ⟨hupper, hlower⟩ := hall capital hcapital
  rcases hc with rfl | rfl <;> rcases hd with rfl | rfl <;> simp_all

theorem lastLetter?_eq_of_flagAfter {capital : Char} (hcapital : capital ∈ capitals)
    {s t : List Char} (h : ∀ before, flagAfter s capital before = flagAfter t capital before) :
    lastLetter? capital s = lastLetter? capital t := by
  have hon := h true
  have hoff := h false
  unfold flagAfter at hon hoff
  cases hs : lastLetter? capital s with
  | none =>
      cases ht : lastLetter? capital t with
      | none => rfl
      | some d => simp_all
  | some c =>
      cases ht : lastLetter? capital t with
      | none => simp_all
      | some d =>
          rw [hs, ht] at hon
          exact congrArg some
            ((lastLetter?_eq hs).eq_of_isUpper hcapital (lastLetter?_eq ht) hon)

/-- All characters of the string are option letters. -/
def Accepted (letters : String) : Prop := ∀ c ∈ letters.toList, c ∈ optionLetters

instance (letters : String) : Decidable (Accepted letters) := List.decidableBAll _ _

theorem withLetters_of_accepted {letters : String} (h : Accepted letters) (o : Options) :
    o.withLetters letters = .ok (o.resolved letters.toList) := by
  have hnone : letters.toList.find? (· ∉ optionLetters) = none :=
    List.find?_eq_none.mpr fun c hc => by simpa using h c hc
  rw [withLetters, setAll_eq, hnone]

theorem accepted_letters (o : Options) : Accepted o.letters := by
  have hall : ∀ capital ∈ capitals, ∀ on : Bool, letterFor on capital ∈ optionLetters :=
    forall_capitals (by decide)
  intro c hc
  rw [letters_eq] at hc
  obtain ⟨capital, hcapital, rfl⟩ := List.mem_map.mp hc
  exact hall capital hcapital _

/-- A string of letters is refused for its first character that is no option letter; else each
option is on or off as its last letter says, be it a capital or not, and without any it stays as it
was. The letters that are written for options lead to them from any others. So two strings of
option letters do the same to all options exactly if they have the same last letter, or none, of
each option. -/
theorem withLetters_lastLetters :
    (∀ (o : Options) (letters : String),
      o.withLetters letters = match letters.toList.find? (· ∉ optionLetters) with
        | some c => .error c
        | none => .ok (o.resolved letters.toList))
    ∧ (∀ o r : Options, r.withLetters o.letters = .ok o)
    ∧ ∀ s t : String, Accepted s → Accepted t →
      ((∀ o : Options, o.withLetters s = o.withLetters t) ↔
        ∀ capital ∈ capitals,
          lastLetter? capital s.toList = lastLetter? capital t.toList) := by
  refine ⟨fun o letters => setAll_eq o letters.toList, fun o r => ?_, fun s t hs ht => ?_⟩
  · rw [withLetters_of_accepted (accepted_letters o)]
    refine congrArg Except.ok (ext_get fun capital hcapital => ?_)
    have hupper : ∀ capital ∈ capitals, ∀ on : Bool, (letterFor on capital).isUpper = on :=
      forall_capitals (by decide)
    rw [get_resolved r _ hcapital, flagAfter, lastLetter?_letters o hcapital]
    exact hupper capital hcapital _
  · simp only [withLetters_of_accepted hs, withLetters_of_accepted ht, Except.ok.injEq]
    constructor
    · intro h capital hcapital
      refine lastLetter?_eq_of_flagAfter hcapital fun before => ?_
      have hget := congrArg (fun o => get o capital)
        (h ⟨before, before, before, before, before, before, before⟩)
      have hbefore : ∀ capital ∈ capitals, ∀ before : Bool,
          get ⟨before, before, before, before, before, before, before⟩ capital = before :=
        forall_capitals (by decide)
      simpa only [get_resolved _ _ hcapital, hbefore capital hcapital] using hget
    · intro h o
      refine ext_get fun capital hcapital => ?_
      rw [get_resolved o _ hcapital, get_resolved o _ hcapital, flagAfter, flagAfter,
        h capital hcapital]

/-- A letter that comes again is as good as not there, and so is the order of the options. -/
theorem withLetters_lastLetters_repeated :
    Accepted "iSpI" ∧ Accepted "pIS"
      ∧ (∀ o : Options, o.withLetters "iSpI" = o.withLetters "pIS")
      ∧ ¬ ∀ o : Options, o.withLetters "iSpI" = o.withLetters "ISpi" := by
  obtain ⟨-, -, hsame⟩ := withLetters_lastLetters
  have hfirst : Accepted "iSpI" := by decide
  refine ⟨hfirst, by decide, (hsame _ _ hfirst (by decide)).mpr (forall_capitals (by decide)), ?_⟩
  rw [hsame _ _ hfirst (by decide)]
  exact fun h => absurd (h 'I' (by decide)) (by decide)

end Options

end Gapfill
