import Mathlib.Data.List.Basic
import Gapfill.Spacing

/-!
# Every token is written once

Each rule for blanks reads the text that the rule before it wrote. Still, the
result can be told token by token. A token belongs to one rule at most
(`Token.rule?`), and what a rule writes holds no token of another one; read
again, the text falls into the same tokens, but for those that were written
(`scan_rewrite`). So the rules for blanks, in any order, write each token of the
body once (`foldl_apply`), and with the slashes escaped this is what all the rules
write (`applyAll_eq`).
-/

namespace Gapfill

namespace Token

/-- The rule that is for the token. -/
def rule? : Token → Option SpacingRule
  | char ' ' => some .wideSpace
  | char ';' | escape '|' => some .pipeSpace
  | char '<' | char '>' | pair _ => some .redirectSpace
  | _ => none

end Token

namespace SpacingRule

open Token (scan startsName)

/-- A rule leaves the tokens of the others alone. -/
theorem replace_of_ne {rule : SpacingRule} {t : Token} (h : t.rule? ≠ some rule) :
    rule.replace t = t.text := by
  unfold replace
  split <;> first | rfl | simp [Token.rule?] at h

/-! ## Reading a written text -/

theorem scan_text (ctx : Token.Context) (s : List Char) :
    (scan ctx s).flatMap Token.text = s := by
  fun_induction scan ctx s <;> simp_all [Token.text]

/-- A character is a token of its own if it neither goes with what is behind it nor begins a set. -/
theorem scan_char {c : Char} {rest : List Char} (hescape : c = '\\' → rest = [])
    (hpair : c = '<' ∨ c = '>' → rest.head? ≠ some c) (hset : c ≠ '[')
    (hname : c = '(' → startsName rest = false) :
    scan .plain (c :: rest) = .char c :: scan .plain rest := by
  rw [scan, if_neg hset, if_neg]
  · simpa using hname
  · rintro d u hc rfl
    simp at hescape
    exact hescape hc
  · rintro u rfl rfl
    simp at hpair
  · rintro u rfl rfl
    simp at hpair

variable {rule : SpacingRule}

/-- The text as a rule writes it; the text begins in the context `ctx`. -/
def rewrite (rule : SpacingRule) (ctx : Token.Context) (s : List Char) : List Char :=
  (scan ctx s).flatMap rule.replace

theorem contains_replace (rule : SpacingRule) (t : Token) :
    (rule.replace t).contains '>' = t.text.contains '>' := by
  by_cases hrule : t.rule? = some rule
  · unfold replace
    split <;> rfl
  · rw [replace_of_ne hrule]

theorem contains_rewrite (rule : SpacingRule) (ctx : Token.Context) (s : List Char) :
    (rule.rewrite ctx s).contains '>' = s.contains '>' := by
  have hall : ∀ tokens : List Token,
      (tokens.flatMap rule.replace).contains '>' = (tokens.flatMap Token.text).contains '>' := by
    intro tokens
    induction tokens with
    | nil => rfl
    | cons t rest ih =>
        have ht := contains_replace rule t
        simp only [List.contains_eq_mem, decide_eq_decide] at ht ih
        simp [ht, ih]
  rw [rewrite, hall, scan_text]

theorem exists_scan_cons (ctx : Token.Context) (c : Char) (s : List Char) :
    ∃ t ts, scan ctx (c :: s) = t :: ts ∧ t.text.head? = some c := by
  have htext := scan_text ctx (c :: s)
  cases hscan : scan ctx (c :: s) with
  | nil => simp [hscan] at htext
  | cons t ts =>
      refine ⟨t, ts, rfl, ?_⟩
      have hne : t.text ≠ [] := by cases t <;> simp [Token.text]
      obtain ⟨d, u, hu⟩ := List.exists_cons_of_ne_nil hne
      rw [hscan, List.flatMap_cons, hu, List.cons_append] at htext
      rw [hu, List.head?_cons, (List.cons.inj htext).1]

theorem replace_head (rule : SpacingRule) (t : Token) :
    ∃ d u, rule.replace t = d :: u ∧ (d = '[' ∨ t.text.head? = some d) := by
  by_cases hrule : t.rule? = some rule
  · unfold replace
    split
    case h_7 => cases t <;> exact ⟨_, _, rfl, Or.inr rfl⟩
    all_goals exact ⟨_, _, rfl, Or.inl rfl⟩
  · rw [replace_of_ne hrule]
    cases t <;> exact ⟨_, _, rfl, Or.inr rfl⟩

/-- What is written begins as the text does, or with a bracket. -/
theorem rewrite_cons (rule : SpacingRule) (ctx : Token.Context) (c : Char) (s : List Char) :
    ∃ d u, rule.rewrite ctx (c :: s) = d :: u ∧ (d = '[' ∨ d = c) := by
  obtain ⟨t, ts, hscan, hc⟩ := exists_scan_cons ctx c s
  obtain ⟨d, u, hreplace, hd⟩ := replace_head rule t
  refine ⟨d, u ++ ts.flatMap rule.replace, by simp [rewrite, hscan, hreplace], ?_⟩
  exact hd.imp_right fun hd => Option.some.inj (hd.symm.trans hc)

/-! ## Names of groups -/

theorem startsName_of_ne {c : Char} (hc : c ≠ '?') (s : List Char) :
    startsName (c :: s) = false := by
  unfold startsName
  split <;> simp_all

/-- A character that is a token of its own in any case, and of no rule. -/
def IsPlain (c : Char) : Prop := c ∈ ['?', 'P', '=', '!']

theorem rewrite_of_isPlain {c : Char} (hc : IsPlain c) (rule : SpacingRule) (s : List Char) :
    rule.rewrite .plain (c :: s) = c :: rule.rewrite .plain s := by
  have hscan : scan .plain (c :: s) = .char c :: scan .plain s ∧ (Token.char c).rule? = none := by
    simp only [IsPlain, List.mem_cons, List.not_mem_nil, or_false] at hc
    rcases hc with rfl | rfl | rfl | rfl <;> exact ⟨by simp [scan], rfl⟩
  rw [rewrite, hscan.1, List.flatMap_cons, replace_of_ne (by simp [hscan.2])]
  rfl

/-- An angle bracket comes to stand behind a bracket set, or it stays and so does what decides
whether it begins a name. -/
theorem rewrite_angle (rule : SpacingRule) (s : List Char) :
    (∃ u, rule.rewrite .plain ('<' :: s) = '[' :: u)
      ∨ ∃ u, rule.rewrite .plain ('<' :: s) = '<' :: u ∧ u.contains '>' = s.contains '>'
        ∧ ∀ c, c = '=' ∨ c = '!' → (u.head? = some c ↔ s.head? = some c) := by
  by_cases h : rule = .redirectSpace
  · subst h
    refine Or.inl ?_
    cases s with
    | nil => exact ⟨_, rfl⟩
    | cons d s =>
        by_cases hd : d = '<'
        · subst hd
          exact ⟨_, rfl⟩
        · have hscan : scan .plain ('<' :: d :: s) = .char '<' :: scan .plain (d :: s) := by
            simp [scan, hd]
          rw [rewrite, hscan]
          exact ⟨_, rfl⟩
  · refine Or.inr ?_
    have hangle : rule.replace (.char '<') = ['<'] :=
      replace_of_ne fun heq => h (Option.some.inj heq).symm
    have hpair : rule.replace (.pair '<') = ['<', '<'] :=
      replace_of_ne fun heq => h (Option.some.inj heq).symm
    cases s with
    | nil => exact ⟨[], by simp [rewrite, scan, hangle], rfl, fun _ _ => Iff.rfl⟩
    | cons d s =>
        by_cases hd : d = '<'
        · subst hd
          refine ⟨'<' :: rule.rewrite .plain s, by simp [rewrite, scan, hpair], ?_, by simp⟩
          simpa using contains_rewrite rule .plain s
        · have hrest :
              rule.rewrite .plain ('<' :: d :: s) = '<' :: rule.rewrite .plain (d :: s) := by
            simp [rewrite, scan, hangle, hd]
          refine ⟨_, hrest, contains_rewrite rule .plain (d :: s), fun c hc => ?_⟩
          obtain ⟨e, u, hu, he⟩ := rewrite_cons rule .plain d s
          rw [hu, List.head?_cons, List.head?_cons]
          constructor
          · intro heq
            obtain rfl := Option.some.inj heq
            rcases he with rfl | rfl
            · simp at hc
            · rfl
          · intro heq
            obtain rfl := Option.some.inj heq
            rw [rewrite_of_isPlain (by rcases hc with rfl | rfl <;> simp [IsPlain])] at hu
            rw [(List.cons.inj hu).1]

theorem startsName_angle (s : List Char) :
    startsName ('?' :: '<' :: s) = true ↔
      ¬ s.head? = some '=' ∧ ¬ s.head? = some '!' ∧ s.contains '>' = true := by
  cases s with
  | nil => simp [startsName]
  | cons c s =>
      by_cases hequal : c = '='
      · subst hequal
        simp [startsName]
      · by_cases hbang : c = '!'
        · subst hbang
          simp [startsName]
        · unfold startsName
          simp [hequal, hbang]

theorem startsName_question {c : Char} (hangle : c ≠ '<') (hletter : c ≠ 'P') (s : List Char) :
    startsName ('?' :: c :: s) = false := by
  unfold startsName
  split <;> simp_all

theorem startsName_letter {c : Char} (hangle : c ≠ '<') (s : List Char) :
    startsName ('?' :: 'P' :: c :: s) = false := by
  unfold startsName
  split <;> simp_all

theorem rewrite_cons_ne {c d : Char} (hc : c ≠ d) (hd : d ≠ '[') (rule : SpacingRule)
    (s : List Char) : ∃ e u, rule.rewrite .plain (c :: s) = e :: u ∧ e ≠ d := by
  obtain ⟨e, u, hu, he⟩ := rewrite_cons rule .plain c s
  refine ⟨e, u, hu, ?_⟩
  rcases he with rfl | rfl
  · exact hd.symm
  · exact hc

theorem startsName_rewrite_letter {s : List Char} (hs : startsName ('?' :: 'P' :: s) = false) :
    startsName ('?' :: 'P' :: rule.rewrite .plain s) = false := by
  cases s with
  | nil => rfl
  | cons c s =>
      by_cases hc : c = '<'
      · subst hc
        rcases rewrite_angle rule s with ⟨u, hu⟩ | ⟨u, hu, hcontains, -⟩
        · rw [hu, startsName_letter (by decide)]
        · rw [hu]
          exact hcontains.trans hs
      · obtain ⟨d, u, hu, hd⟩ := rewrite_cons_ne hc (by decide) rule s
        rw [hu, startsName_letter hd]

theorem startsName_rewrite_question {s : List Char} (hs : startsName ('?' :: s) = false) :
    startsName ('?' :: rule.rewrite .plain s) = false := by
  cases s with
  | nil => rfl
  | cons c s =>
      by_cases hangle : c = '<'
      · subst hangle
        rcases rewrite_angle rule s with ⟨u, hu⟩ | ⟨u, hu, hcontains, hhead⟩
        · rw [hu, startsName_question (by decide) (by decide)]
        · have hequal := hhead '=' (Or.inl rfl)
          have hbang := hhead '!' (Or.inr rfl)
          rw [← Bool.not_eq_true, startsName_angle] at hs
          rw [hu, ← Bool.not_eq_true, startsName_angle, hcontains, hequal, hbang]
          exact hs
      · by_cases hletter : c = 'P'
        · subst hletter
          rw [rewrite_of_isPlain (by simp [IsPlain])]
          exact startsName_rewrite_letter hs
        · obtain ⟨d, u, hu, hd⟩ := rewrite_cons rule .plain c s
          rw [hu, startsName_question]
          all_goals
            rcases hd with rfl | rfl
            · decide
            · assumption

/-- What is written begins no name where the text begins none. -/
theorem startsName_rewrite {s : List Char} (hs : startsName s = false) :
    startsName (rule.rewrite .plain s) = false := by
  cases s with
  | nil => rfl
  | cons c s =>
      by_cases hc : c = '?'
      · subst hc
        rw [rewrite_of_isPlain (by simp [IsPlain])]
        exact startsName_rewrite_question hs
      · obtain ⟨d, u, hu, hd⟩ := rewrite_cons_ne hc (by decide) rule s
        rw [hu, startsName_of_ne hd]

/-- The tokens of what a rule writes for a token. -/
def retoken (rule : SpacingRule) (t : Token) : List Token :=
  if t.rule? = some rule then scan .plain (rule.replace t) else [t]

/-- A rule leaves the rest of a name alone. -/
theorem rewrite_groupName (rule : SpacingRule) (c : Char) (s : List Char) :
    rule.rewrite .groupName (c :: s) =
      c :: rule.rewrite (if c = '>' then .plain else .groupName) s := by
  rw [rewrite, scan, List.flatMap_cons, replace_of_ne (by simp [Token.rule?])]
  rfl

theorem startsName_rewrite_groupName (rule : SpacingRule) {s : List Char}
    (hs : startsName s = true) : startsName (rule.rewrite .groupName s) = true := by
  have hform : (∃ u, s = '?' :: 'P' :: '<' :: u) ∨ ∃ u, s = '?' :: '<' :: u := by
    unfold startsName at hs
    split at hs <;> simp_all
  rcases hform with ⟨u, rfl⟩ | ⟨u, rfl⟩
  · simp only [rewrite_groupName, Char.reduceEq, if_false]
    rw [startsName, contains_rewrite rule]
    exact hs
  · obtain ⟨hequal, hbang, hcontains⟩ := startsName_angle u |>.mp hs
    have hhead : (rule.rewrite .groupName u).head? = u.head? := by
      cases u with
      | nil => rfl
      | cons c u => rw [rewrite_groupName]; rfl
    simp only [rewrite_groupName, Char.reduceEq, if_false]
    rw [startsName_angle, hhead, contains_rewrite rule]
    exact ⟨hequal, hbang, hcontains⟩

/-! ## Reading again -/

theorem retoken_of_ne {t : Token} (h : t.rule? ≠ some rule) : rule.retoken t = [t] := if_neg h

/-- What a rule writes for a token is read by itself. -/
theorem scan_replace_append {t : Token} (ht : t.rule? = some rule)
    (hpair : ∀ c, t = .pair c → c = '<' ∨ c = '>') (u : List Char) :
    scan .plain (rule.replace t ++ u) = scan .plain (rule.replace t) ++ scan .plain u := by
  unfold Token.rule? at ht
  split at ht
  case h_6 c =>
      obtain rfl := Option.some.inj ht
      rcases hpair c rfl with rfl | rfl <;>
        simp [replace, padded, blank, scan, Token.insideAfter]
  case h_7 => simp at ht
  all_goals
    obtain rfl := Option.some.inj ht
    simp [replace, padded, blank, scan, Token.insideAfter, startsName]

/-- A token that the rule leaves alone is read again. -/
private theorem scan_rewrite_kept {ctx ctx' : Token.Context} {t : Token} {s rest : List Char}
    (ht : t.rule? ≠ some rule) (hscan : scan ctx s = t :: scan ctx' rest)
    (hscan' : scan ctx (t.text ++ rule.rewrite ctx' rest) = t :: scan ctx' (rule.rewrite ctx' rest))
    (ih : scan ctx' (rule.rewrite ctx' rest) = (scan ctx' rest).flatMap rule.retoken) :
    scan ctx (rule.rewrite ctx s) = (scan ctx s).flatMap rule.retoken := by
  have hrewrite : rule.rewrite ctx s = t.text ++ rule.rewrite ctx' rest := by
    rw [rewrite, hscan, List.flatMap_cons, replace_of_ne ht]
    rfl
  rw [hrewrite, hscan', hscan, ih, List.flatMap_cons, retoken_of_ne ht]
  rfl

private theorem scan_rewrite_inert {ctx ctx' : Token.Context} {c : Char} {rest : List Char}
    (hscan : ∀ u, scan ctx (c :: u) = .inert c :: scan ctx' u)
    (ih : scan ctx' (rule.rewrite ctx' rest) = (scan ctx' rest).flatMap rule.retoken) :
    scan ctx (rule.rewrite ctx (c :: rest)) = (scan ctx (c :: rest)).flatMap rule.retoken :=
  scan_rewrite_kept (by simp [Token.rule?]) (hscan rest) (hscan _) ih

private theorem scan_rewrite_written {t : Token} {s rest : List Char} (ht : t.rule? = some rule)
    (hpair : ∀ c, t = .pair c → c = '<' ∨ c = '>') (hscan : scan .plain s = t :: scan .plain rest)
    (ih : scan .plain (rule.rewrite .plain rest) = (scan .plain rest).flatMap rule.retoken) :
    scan .plain (rule.rewrite .plain s) = (scan .plain s).flatMap rule.retoken := by
  have hrewrite : rule.rewrite .plain s = rule.replace t ++ rule.rewrite .plain rest := by
    rw [rewrite, hscan, List.flatMap_cons]
    rfl
  rw [hrewrite, scan_replace_append ht hpair, hscan, ih, List.flatMap_cons, retoken, if_pos ht]

/-- Read again, a text that was written falls into the tokens that it had, but for those that the
rule wrote. -/
theorem scan_rewrite (rule : SpacingRule) (ctx : Token.Context) (s : List Char) :
    scan ctx (rule.rewrite ctx s) = (scan ctx s).flatMap rule.retoken := by
  induction ctx, s using Token.scan.induct with
  | case1 ctx => simp [rewrite, scan]
  | case2 c rest ih => exact scan_rewrite_inert (fun u => by rw [scan]) ih
  | case3 d c rest ih => exact scan_rewrite_inert (fun u => by rw [scan]) ih
  | case4 d c rest ih => exact scan_rewrite_inert (fun u => by rw [scan]) ih
  | case5 d c rest ih => exact scan_rewrite_inert (fun u => by rw [scan]) ih
  | case6 d c rest ih => exact scan_rewrite_inert (fun u => by rw [scan]) ih
  | case7 c rest ih =>
      by_cases ht : (Token.escape c).rule? = some rule
      · exact scan_rewrite_written ht (by simp) (by rw [scan]) ih
      · exact scan_rewrite_kept ht (by rw [scan]) (by simp [Token.text, scan]) ih
  | case8 rest ih =>
      by_cases ht : (Token.pair '<').rule? = some rule
      · exact scan_rewrite_written ht (by simp) (by rw [scan]) ih
      · exact scan_rewrite_kept ht (by rw [scan]) (by simp [Token.text, scan]) ih
  | case9 rest ih =>
      by_cases ht : (Token.pair '>').rule? = some rule
      · exact scan_rewrite_written ht (by simp) (by rw [scan]) ih
      · exact scan_rewrite_kept ht (by rw [scan]) (by simp [Token.text, scan]) ih
  | case10 rest _ _ _ ih => exact scan_rewrite_inert (fun u => by simp [scan]) ih
  | case11 c rest hback hless hmore hset hname ih =>
      simp only [Bool.and_eq_true, decide_eq_true_eq] at hname
      obtain ⟨rfl, hname⟩ := hname
      have hname' := startsName_rewrite_groupName rule hname
      exact scan_rewrite_kept (t := .inert '(') (by simp [Token.rule?]) (by simp [scan, hname])
        (by simp [Token.text, scan, hname']) ih
  | case12 c rest hback hless hmore hset hname ih =>
      have hscan : scan .plain (c :: rest) = .char c :: scan .plain rest := by
        rw [scan, if_neg hset, if_neg hname] <;> assumption
      by_cases ht : (Token.char c).rule? = some rule
      · exact scan_rewrite_written ht (by simp) hscan ih
      · refine scan_rewrite_kept ht hscan ?_ ih
        -- what comes next is not taken into the token either
        replace hname : ¬ (decide (c = '(') && startsName (rule.rewrite .plain rest)) = true := by
          simp only [Bool.and_eq_true, decide_eq_true_eq, not_and, Bool.not_eq_true] at hname ⊢
          exact fun hc => startsName_rewrite (hname hc)
        have hnext : ∀ d u, rule.rewrite .plain rest = d :: u → d = '[' ∨ ∃ v, rest = d :: v := by
          intro d u hu
          cases rest with
          | nil => simp [rewrite, scan] at hu
          | cons e rest =>
              obtain ⟨d', u', hu', hd⟩ := rewrite_cons rule .plain e rest
              obtain ⟨rfl, -⟩ := List.cons.inj (hu.symm.trans hu')
              exact hd.imp_right fun heq => ⟨rest, by rw [heq]⟩
        change scan .plain (c :: rule.rewrite .plain rest) = _
        rw [scan, if_neg hset, if_neg hname]
        · rintro d u rfl hu
          obtain rfl : rest = [] := by
            cases rest with
            | nil => rfl
            | cons e rest => exact (hback e rest rfl rfl).elim
          simp [rewrite, scan] at hu
        · rintro u rfl hu
          obtain ⟨v, hv⟩ := (hnext _ _ hu).resolve_left (by decide)
          exact hless v rfl hv
        · rintro u rfl hu
          obtain ⟨v, hv⟩ := (hnext _ _ hu).resolve_left (by decide)
          exact hmore v rfl hv

/-- A pair is one of angle brackets. -/
theorem scan_pair {c : Char} {ctx : Token.Context} {s : List Char}
    (h : Token.pair c ∈ scan ctx s) : c = '<' ∨ c = '>' := by
  induction ctx, s using Token.scan.induct with
  | case1 ctx => simp [scan] at h
  | case8 rest ih =>
      rw [scan] at h
      rcases List.mem_cons.mp h with h | h
      · exact Or.inl (Token.pair.inj h)
      · exact ih h
  | case9 rest ih =>
      rw [scan] at h
      rcases List.mem_cons.mp h with h | h
      · exact Or.inr (Token.pair.inj h)
      · exact ih h
  | case12 c rest hback hless hmore hset hname ih =>
      rw [scan, if_neg hset, if_neg hname] at h
      · exact ih (by simpa using h)
      all_goals assumption
  | case11 c rest hback hless hmore hset hname ih =>
      rw [scan, if_neg hset, if_pos hname] at h
      · exact ih (by simpa using h)
      all_goals assumption
  | case10 rest _ _ _ ih => exact ih (by simpa [scan] using h)
  | _ => rename_i ih; exact ih (by simpa [scan] using h)

/-! ## All rules at once -/

/-- What is written for a token if some of the rules apply. -/
def written (on : SpacingRule → Bool) (t : Token) : List Char :=
  match t.rule? with
  | some rule => if on rule then rule.replace t else t.text
  | none => t.text

theorem written_of_rule? {on : SpacingRule → Bool} {t : Token} (ht : t.rule? = some rule) :
    written on t = if on rule then rule.replace t else t.text := by
  rw [written, ht]

theorem written_congr {on on' : SpacingRule → Bool} {t : Token}
    (h : ∀ rule, t.rule? = some rule → on rule = on' rule) : written on t = written on' t := by
  unfold written
  split
  · rename_i rule ht
    rw [h rule ht]
  · rfl

theorem written_of_off {on : SpacingRule → Bool} {t : Token}
    (h : ∀ rule, t.rule? = some rule → on rule = false) : written on t = t.text := by
  unfold written
  split
  · rename_i rule ht
    rw [h rule ht]
    rfl
  · rfl

theorem apply_eq_rewrite (h : rule ≠ .escapeSlash) (body : List Char) :
    rule.apply body = rule.rewrite .plain body := by
  cases rule <;> first | rfl | exact absurd rfl h

/-- A rule writes nothing that is for another rule. -/
theorem rule?_of_mem_scan_replace {t t' : Token} (ht : t.rule? = some rule)
    (hpair : ∀ c, t = .pair c → c = '<' ∨ c = '>') (hmem : t' ∈ scan .plain (rule.replace t)) :
    t'.rule? = none ∨ t'.rule? = some rule := by
  revert t'
  unfold Token.rule? at ht
  split at ht
  case h_6 c =>
      obtain rfl := Option.some.inj ht
      rcases hpair c rfl with rfl | rfl <;> decide
  case h_7 => simp at ht
  all_goals
    obtain rfl := Option.some.inj ht
    decide

/-- One rule and then others write what all of them write at once. -/
theorem written_retoken {rules : List SpacingRule} (hrule : rule ∉ rules) {t : Token}
    (hpair : ∀ c, t = .pair c → c = '<' ∨ c = '>') :
    (rule.retoken t).flatMap (written fun r => decide (r ∈ rules)) =
      written (fun r => decide (r ∈ rule :: rules)) t := by
  by_cases ht : t.rule? = some rule
  · have hleft : ∀ t' ∈ scan .plain (rule.replace t),
        written (fun r => decide (r ∈ rules)) t' = t'.text := by
      refine fun t' hmem => written_of_off fun r hr => decide_eq_false fun hrules => ?_
      rcases rule?_of_mem_scan_replace ht hpair hmem with hnone | hsome
      · simp [hr] at hnone
      · obtain rfl := Option.some.inj (hr.symm.trans hsome)
        exact hrule hrules
    rw [retoken, if_pos ht, written_of_rule? ht, if_pos (by simp), List.flatMap_congr hleft,
      scan_text]
  · rw [retoken_of_ne ht, List.flatMap_singleton]
    refine written_congr fun r hr => ?_
    have hne : r ≠ rule := by
      rintro rfl
      exact ht hr
    simp [hne]

/-- In any order, the rules for blanks write each token of the body once. -/
theorem foldl_apply : ∀ {rules : List SpacingRule} (body : List Char), rules.Nodup →
    SpacingRule.escapeSlash ∉ rules →
      rules.foldl (fun text rule => rule.apply text) body =
        (scan .plain body).flatMap (written fun rule => decide (rule ∈ rules))
  | [], body, _, _ => by
      rw [List.flatMap_congr fun t _ => written_of_off (by simp), scan_text]
      rfl
  | rule :: rules, body, hnodup, hslash => by
      obtain ⟨hrule, hrules⟩ := List.nodup_cons.mp hnodup
      rw [List.mem_cons, not_or] at hslash
      obtain ⟨hslash, hslashes⟩ := hslash
      rw [List.foldl_cons, apply_eq_rewrite (Ne.symm hslash), foldl_apply _ hrules hslashes,
        scan_rewrite, List.flatMap_assoc]
      refine List.flatMap_congr fun t hmem => written_retoken hrule ?_
      rintro c rfl
      exact scan_pair hmem

/-- The text for a body, token by token. -/
theorem applyAll_eq (o : Options) (body : List Char) :
    applyAll o body = escapeSlashes false ((scan .plain body).flatMap (written (enabled o))) := by
  have hrules : all.filter (enabled o) =
      [wideSpace, pipeSpace, redirectSpace].filter (enabled o) ++ [escapeSlash] := by
    rw [show all = [wideSpace, pipeSpace, redirectSpace] ++ [escapeSlash] from rfl,
      List.filter_append]
    rfl
  rw [applyAll, hrules, List.foldl_append, foldl_apply body
    (List.Nodup.sublist List.filter_sublist (by decide)) (by simp)]
  refine congrArg (escapeSlashes false) (List.flatMap_congr fun t _ => written_congr fun r hr => ?_)
  have hmem : r ∈ [wideSpace, pipeSpace, redirectSpace] := by
    unfold Token.rule? at hr
    split at hr <;> simp at hr <;> simp [← hr]
  simp [List.mem_filter, hmem]

/-! ## Slashes -/

/-- Whether a backslash that escapes what follows comes right before the end of the text; the flag
says that one comes right before its start. -/
def endsEscaping : Bool → List Char → Bool
  | b, [] => b
  | true, _ :: rest => endsEscaping false rest
  | false, c :: rest => endsEscaping (c == '\\') rest

theorem escapeSlashes_append : ∀ (b : Bool) (u v : List Char),
    escapeSlashes b (u ++ v) = escapeSlashes b u ++ escapeSlashes (endsEscaping b u) v
  | _, [], _ => by simp [escapeSlashes, endsEscaping]
  | true, c :: u, v => by
      simp [escapeSlashes, endsEscaping, escapeSlashes_append false u v]
  | false, c :: u, v => by
      by_cases hc : c = '/'
      · subst hc
        simp [escapeSlashes, endsEscaping, escapeSlashes_append false u v]
      · simp [escapeSlashes, endsEscaping, hc, escapeSlashes_append (c == '\\') u v]

/-- Nothing is escaped in a token of a rule, nor in what is written for it. -/
theorem escapeSlashes_token {ctx : Token.Context} {t : Token} {s : List Char}
    (hmem : t ∈ scan ctx s) (ht : t.rule? = some rule) (b : Bool) (u : List Char) :
    escapeSlashes b (t.text ++ u) = t.text ++ escapeSlashes false u
      ∧ escapeSlashes b (rule.replace t ++ u) = rule.replace t ++ escapeSlashes false u := by
  unfold Token.rule? at ht
  split at ht
  case h_6 c =>
      obtain rfl := Option.some.inj ht
      rcases scan_pair hmem with rfl | rfl <;> cases b <;>
        simp [escapeSlashes, replace, padded, blank, Token.text]
  case h_7 => simp at ht
  all_goals
    obtain rfl := Option.some.inj ht
    cases b <;> simp [escapeSlashes, replace, padded, blank, Token.text]

end SpacingRule

end Gapfill
