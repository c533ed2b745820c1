import Gapfill.Environment

/-!
# Values that are read again

References are replaced one at a time, the leftmost first, and after each one the
text is read anew from its start. One pass from left to right (`onePass`) leaves
what a value says as it is. The two differ where a reference begins in a value
that has been put in, or where a value meets the text beside it: such a reference
is replaced too, and a variable that refers to itself is replaced without end
(`value_read_again`).

Where nothing of this kind arises (`Apart`), the replacements come to an end, and
the result is that of the one pass (`expand?_onePass`). Each replacement then
leaves less text to be read, so as many as the text has characters are enough.
-/

namespace Gapfill

namespace Reference

/-! ## The first reference -/

theorem text_of_opening? : ∀ {text before rest : List Char},
    opening? text = some (before, rest) → text = before ++ '$' :: '\x7b' :: rest
  | [], _, _, h => by simp [opening?] at h
  | c :: text, before, rest, h => by
      unfold opening? at h
      split at h
      · rename_i heq
        obtain ⟨rfl, rfl⟩ := Prod.mk.inj (Option.some.inj h)
        exact heq
      · rename_i heq
        obtain ⟨rfl, rfl⟩ := List.cons.inj heq
        obtain ⟨⟨before', rest'⟩, hrest, hsome⟩ := Option.map_eq_some_iff.mp h
        obtain ⟨rfl, rfl⟩ := Prod.mk.inj hsome
        rw [List.cons_append, ← text_of_opening? hrest]
      · simp at h

theorem text_of_closing? : ∀ {text name after : List Char},
    closing? text = some (name, after) → text = name ++ '\x7d' :: after
  | [], _, _, h => by simp [closing?] at h
  | c :: text, name, after, h => by
      unfold closing? at h
      split at h
      · rename_i heq
        obtain ⟨rfl, rfl⟩ := Prod.mk.inj (Option.some.inj h)
        exact heq
      · rename_i heq
        obtain ⟨rfl, rfl⟩ := List.cons.inj heq
        obtain ⟨⟨name', after'⟩, hafter, hsome⟩ := Option.map_eq_some_iff.mp h
        obtain ⟨rfl, rfl⟩ := Prod.mk.inj hsome
        rw [List.cons_append, ← text_of_closing? hafter]
      · simp at h

/-- The first reference that is closed: what comes before it, its name, and what comes behind it. -/
def first? (text : List Char) : Option (List Char × List Char × List Char) := do
  let (before, rest) ← opening? text
  let (name, after) ← closing? rest
  return (before, name, after)

theorem first?_eq_some {text before name after : List Char} :
    first? text = some (before, name, after) ↔
      ∃ rest, opening? text = some (before, rest) ∧ closing? rest = some (name, after) := by
  unfold first?
  constructor
  · intro h
    obtain ⟨⟨before', rest⟩, hopening, h⟩ := Option.bind_eq_some_iff.mp h
    obtain ⟨⟨name', after'⟩, hclosing, h⟩ := Option.bind_eq_some_iff.mp h
    obtain ⟨rfl, rfl, rfl⟩ := by simpa using h
    exact ⟨rest, hopening, hclosing⟩
  · rintro ⟨rest, hopening, hclosing⟩
    simp [hopening, hclosing]

theorem text_of_first? {text before name after : List Char}
    (h : first? text = some (before, name, after)) :
    text = before ++ '$' :: '\x7b' :: (name ++ '\x7d' :: after) := by
  obtain ⟨rest, hopening, hclosing⟩ := first?_eq_some.mp h
  rw [text_of_opening? hopening, text_of_closing? hclosing]

theorem length_of_first? {text before name after : List Char}
    (h : first? text = some (before, name, after)) : after.length < text.length := by
  rw [text_of_first? h]
  simp only [List.length_append, List.length_cons]
  omega

theorem step?_eq (environment : Environment) (text : List Char) :
    step? environment text = (first? text).map fun (before, name, after) =>
      before ++ valueOf environment name ++ after := by
  unfold step? first?
  cases opening? text with
  | none => rfl
  | some cut =>
      simp only [Option.bind_eq_bind, Option.bind_some]
      cases closing? cut.2 <;> rfl

/-! ## One pass -/

/-- The text with each reference replaced once, from left to right. What the values say is not read
again, and a reference that is not closed is left with everything behind it. -/
def onePass (environment : Environment) (text : List Char) : List Char :=
  match _h : first? text with
  | none => text
  | some (before, name, after) =>
    before ++ valueOf environment name ++ onePass environment after
termination_by text.length
decreasing_by exact length_of_first? _h

variable {environment : Environment} {text before name after : List Char}

theorem onePass_of_none (h : first? text = none) : onePass environment text = text := by
  rw [onePass]
  split
  · rfl
  · rename_i heq
    exact absurd (h.symm.trans heq) nofun

theorem onePass_of_some (h : first? text = some (before, name, after)) :
    onePass environment text =
      before ++ valueOf environment name ++ onePass environment after := by
  rw [onePass]
  split
  · rename_i heq
    exact absurd (h.symm.trans heq) nofun
  · rename_i heq
    obtain ⟨rfl, rfl, rfl⟩ := by simpa using h.symm.trans heq
    rfl

/-! ## Where references begin -/

/-- No reference begins in `text` where `after` comes behind it. -/
def Quiet (text after : List Char) : Prop :=
  ∀ u v, text = u ++ v → v ≠ [] → ¬ ['$', '\x7b'] <+: v ++ after

theorem Quiet.nil (after : List Char) : Quiet [] after := by
  intro u v huv hv
  exact absurd (List.append_eq_nil_iff.mp huv.symm).2 hv

theorem Quiet.of_cons {c : Char} (h : Quiet (c :: text) after) :
    Quiet text after ∧ ¬ ['$', '\x7b'] <+: c :: (text ++ after) :=
  ⟨fun u v huv hv => h (c :: u) v (by rw [huv]; rfl) hv, h [] (c :: text) rfl nofun⟩

theorem Quiet.append {text' : List Char} (h : Quiet text (text' ++ after))
    (h' : Quiet text' after) : Quiet (text ++ text') after := by
  intro u v huv hv
  rcases List.append_eq_append_iff.mp huv with ⟨w, rfl, rfl⟩ | ⟨w, rfl, rfl⟩
  · exact h' w v rfl hv
  · by_cases hw : w = []
    · subst hw
      exact h' [] text' rfl hv
    · rw [List.append_assoc]
      exact h u w rfl hw

theorem opening?_cons {c : Char} (h : ¬ ['$', '\x7b'] <+: c :: text) :
    opening? (c :: text) = (opening? text).map fun (before, rest) => (c :: before, rest) := by
  rw [opening?]
  rintro rest rfl rfl
  exact h ⟨rest, rfl⟩

theorem opening?_append : ∀ {text : List Char}, Quiet text after →
    opening? (text ++ after) =
      (opening? after).map fun (before, rest) => (text ++ before, rest)
  | [], _ => by simp
  | c :: text, h => by
      obtain ⟨hquiet, hhead⟩ := h.of_cons
      rw [List.cons_append, opening?_cons hhead, opening?_append hquiet, Option.map_map]
      rfl

/-- In front of a text in which no reference begins, the first reference is that of the rest. -/
theorem first?_append (h : Quiet text after) :
    first? (text ++ after) =
      (first? after).map fun (before, rest) => (text ++ before, rest) := by
  unfold first?
  rw [opening?_append h]
  cases opening? after with
  | none => rfl
  | some cut =>
      simp only [Option.map_some, Option.bind_eq_bind, Option.bind_some]
      cases closing? cut.2 <;> rfl

/-- Before the first reference there is none. -/
theorem quiet_of_opening? : ∀ {text before rest : List Char},
    opening? text = some (before, rest) → Quiet before ('$' :: '\x7b' :: rest)
  | [], _, _, h => by simp [opening?] at h
  | c :: text, before, rest, h => by
      by_cases hhead : ['$', '\x7b'] <+: c :: text
      · obtain ⟨u, hu⟩ := hhead
        rw [← hu, List.cons_append, List.cons_append, List.nil_append, opening?] at h
        obtain ⟨rfl, -⟩ := Prod.mk.inj (Option.some.inj h)
        exact .nil _
      · rw [opening?_cons hhead] at h
        obtain ⟨⟨before', rest'⟩, hrest, hsome⟩ := Option.map_eq_some_iff.mp h
        obtain ⟨rfl, rfl⟩ := Prod.mk.inj hsome
        intro u v huv hv
        cases u with
        | nil =>
            obtain rfl := huv
            rwa [List.cons_append, ← text_of_opening? hrest]
        | cons d u => exact quiet_of_opening? hrest u v (List.cons.inj huv).2 hv

/-! ## The replacements -/

/-- No reference begins in what the values put in or where they meet the text around them. `done` is
what has been written of the text so far. -/
inductive Apart (environment : Environment) : List Char → List Char → Prop
  | last {done text : List Char} (h : first? text = none) : Apart environment done text
  | reference {done text before name after : List Char}
      (h : first? text = some (before, name, after))
      (quiet : Quiet (done ++ before ++ valueOf environment name) after)
      (rest : Apart environment (done ++ before ++ valueOf environment name) after) :
      Apart environment done text

/-- Once there is no reference that is closed, the replacements are over. -/
theorem expand?_of_none (h : first? text = none) (fuel : Nat) :
    expand? environment fuel text = some text := by
  have hstep : step? environment text = none := by rw [step?_eq, h, Option.map_none]
  cases fuel with
  | zero => rw [expand?, hstep, if_pos (by rfl)]
  | succ fuel => rw [expand?, hstep]

theorem expand?_of_some (h : first? text = some (before, name, after)) (fuel : Nat) :
    expand? environment (fuel + 1) text =
      expand? environment fuel (before ++ valueOf environment name ++ after) := by
  rw [expand?, step?_eq, h, Option.map_some]

theorem first?_of_expand? : ∀ {fuel : Nat} {text result : List Char},
    expand? environment fuel text = some result → first? result = none
  | 0, text, result, h => by
      rw [expand?] at h
      split at h
      · rename_i hnone
        obtain rfl := Option.some.inj h
        rw [step?_eq, Option.isNone_map] at hnone
        exact Option.isNone_iff_eq_none.mp hnone
      · simp at h
  | fuel + 1, text, result, h => by
      cases hfirst : first? text with
      | none =>
          rw [expand?_of_none hfirst] at h
          obtain rfl := Option.some.inj h
          exact hfirst
      | some cut =>
          obtain ⟨before, name, after⟩ := cut
          rw [expand?_of_some hfirst] at h
          exact first?_of_expand? h

/-- What has been written stays as it is, and the rest is replaced as in one pass. -/
theorem Apart.expand? {done : List Char} (h : Apart environment done text) :
    Quiet done text → ∀ fuel, text.length ≤ fuel →
      expand? environment fuel (done ++ text) = some (done ++ onePass environment text) := by
  induction h with
  | last hnone =>
      intro hquiet fuel _
      rw [onePass_of_none hnone]
      exact expand?_of_none (by rw [first?_append hquiet, hnone, Option.map_none]) fuel
  | @reference done text before name after hfirst hquiet _ ih =>
      intro hdone fuel hfuel
      have hlength := length_of_first? hfirst
      obtain ⟨fuel, rfl⟩ : ∃ n, fuel = n + 1 := ⟨fuel - 1, by omega⟩
      have hwhole : first? (done ++ text) = some (done ++ before, name, after) := by
        rw [first?_append hdone, hfirst, Option.map_some]
      rw [expand?_of_some hwhole, ih hquiet fuel (by omega), onePass_of_some hfirst]
      simp only [List.append_assoc]

/-- Values without `$` bring no reference with them, and cannot complete one where no `$` stands
right before another. -/
theorem Apart.of_no_dollar (hvalues : ∀ name, '$' ∉ valueOf environment name)
    {done text : List Char} (hdone : ∀ after, Quiet done after)
    (htext : ¬ ['$', '$'] <:+: text) : Apart environment done text := by
  cases hfirst : first? text with
  | none => exact .last hfirst
  | some cut =>
      obtain ⟨before, name, after⟩ := cut
      obtain ⟨rest, hopening, -⟩ := first?_eq_some.mp hfirst
      have hafter : ¬ ['$', '$'] <:+: after := fun hinfix => htext <| hinfix.trans <|
        text_of_first? hfirst ▸ ⟨before ++ '$' :: '\x7b' :: (name ++ ['\x7d']), [], by simp⟩
      have hvalue : ∀ u, Quiet (valueOf environment name) u := by
        rintro u w v hwv hv ⟨x, hx⟩
        obtain ⟨d, v, rfl⟩ := List.exists_cons_of_ne_nil hv
        obtain ⟨rfl, -⟩ := List.cons.inj hx
        exact hvalues name (by rw [hwv]; simp)
      have hbefore : ∀ u, Quiet before u := by
        rintro u w v rfl hv ⟨x, hx⟩
        have hquiet := quiet_of_opening? hopening w v rfl hv
        match v with
        | [] => exact hv rfl
        | [d] =>
            obtain ⟨rfl, -⟩ := List.cons.inj hx
            exact htext ⟨w, '\x7b' :: rest, by rw [text_of_opening? hopening]; simp⟩
        | d :: e :: v =>
            obtain ⟨hd, hx⟩ := List.cons.inj hx
            obtain ⟨he, -⟩ := List.cons.inj hx
            exact hquiet ⟨v ++ '$' :: '\x7b' :: rest, by rw [hd, he]; rfl⟩
      have hdone' : ∀ u, Quiet (done ++ before ++ valueOf environment name) u := fun u =>
        ((hdone _).append (hbefore _)).append (hvalue u)
      exact .reference hfirst (hdone' after) (Apart.of_no_dollar hvalues hdone' hafter)
termination_by text.length
decreasing_by exact length_of_first? hfirst

/-- Where no reference begins in a value or where a value meets the text around it, the replacements
come to an end with the result of one pass. They never end with a text in which a reference is left,
so not with that of the one pass if a value brings a whole reference with it. -/
theorem expand?_onePass (environment : Environment) (text : List Char) :
    (Apart environment [] text → ∀ fuel, text.length ≤ fuel →
        expand? environment fuel text = some (onePass environment text))
      ∧ ((first? (onePass environment text)).isSome → ∀ fuel,
        expand? environment fuel text ≠ some (onePass environment text)) := by
  refine ⟨fun h fuel hfuel => h.expand? (.nil text) fuel hfuel, fun hleft fuel hend => ?_⟩
  rw [first?_of_expand? hend] at hleft
  exact absurd hleft nofun

/-- A directory below that of a user, with a variable that has no value and a reference that is not
closed. -/
theorem expand?_onePass_directory :
    let environment : Environment := [("HOME", "/home/me")]
    let text := "$\x7bHOME\x7d/$\x7bRUN\x7dout-$\x7bHOME".toList
    Apart environment [] text
      ∧ expand? environment 100 text = some "/home/me/out-$\x7bHOME".toList
      ∧ expand? environment 100 text = some (onePass environment text) := by
  intro environment text
  have hvalues : ∀ name, '$' ∉ valueOf environment name := by
    intro name
    unfold valueOf
    rw [List.lookup_cons]
    split
    · decide
    · simp
  have hapart : Apart environment [] text :=
    .of_no_dollar hvalues Quiet.nil (by decide +kernel)
  exact ⟨hapart, by decide +kernel,
    (expand?_onePass environment text).1 hapart 100 (by decide +kernel)⟩

/-- A reference that a value brings with it is replaced, and one that brings itself without end. -/
theorem value_read_again :
    (onePass [("A", "$\x7bB\x7d"), ("B", "x")] "$\x7bA\x7d".toList = "$\x7bB\x7d".toList
        ∧ expandText? [("A", "$\x7bB\x7d"), ("B", "x")] "$\x7bA\x7d" = some "x")
      ∧ ∀ fuel, expand? [("A", "$\x7bA\x7d")] fuel "$\x7bA\x7d".toList = none := by
  have hfirst : first? "$\x7bA\x7d".toList = some ([], ['A'], []) := by decide +kernel
  refine ⟨⟨?_, by decide +kernel⟩, fun fuel => ?_⟩
  · rw [onePass_of_some hfirst, onePass_of_none (by decide)]
    decide
  · have hsame : ([] ++ valueOf [("A", "$\x7bA\x7d")] ['A'] ++ [] : List Char) =
        "$\x7bA\x7d".toList := by decide +kernel
    induction fuel with
    | zero => decide +kernel
    | succ fuel ih => rw [expand?_of_some hfirst, hsame, ih]

end Reference

end Gapfill
