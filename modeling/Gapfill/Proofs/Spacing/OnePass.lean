import Gapfill.Proofs.Spacing.Tokens

/-!
# The rules as one pass

The rules for blanks and slashes are applied one after the other, each to the
text that the rule before it wrote. `onePass` says what comes out in the end,
without tokens and without texts in between: it goes over the author's text once,
passes over escapes, bracket sets and the names of groups as they stand there,
and writes each token that a rule is for where it comes to it.

That the rules agree with it, in whatever order they are applied
(`applyAll_onePass`), has two parts. The rules for blanks write each token once
(`foldl_apply`), and a rule for blanks and the rule for slashes can change places
(`rewrite_escapeSlashes`): a backslash that is put in neither ends nor begins a
set, an escape or a name.
-/

namespace Gapfill

namespace SpacingRule

open Token (scan startsName)

variable {rule : SpacingRule}

/-! ## The pass -/

/-- The signs right behind an opening bracket that belong to it: the sign of negation, and a closing
bracket that stands for itself. -/
def setSigns : List Char → List Char
  | '^' :: ']' :: _ => ['^', ']']
  | '^' :: _ => ['^']
  | ']' :: _ => [']']
  | _ => []

/-- The name of a group, from behind its parenthesis up to the angle bracket at its end; nothing if
the group has none. -/
def groupName (s : List Char) : List Char :=
  if startsName s then s.take (s.idxOf '>' + 1) else []

/-- What one pass writes for a token of a rule, in `depth` bracket sets. -/
def atToken (on : SpacingRule → Bool) (depth : Nat) (rule : SpacingRule) (token wide : List Char) :
    List Char :=
  if depth = 0 ∧ on rule then wide else token

/-- One pass over the text of a body in `depth` bracket sets, where the rules in `on` apply. -/
def onePass (on : SpacingRule → Bool) (depth : Nat) (body : List Char) : List Char :=
  match body with
  | [] => []
  | '\\' :: '|' :: rest =>
    atToken on depth pipeSpace ['\\', '|'] (padded ['\\', '|']) ++ onePass on depth rest
  | '\\' :: c :: rest => '\\' :: c :: onePass on depth rest
  | '<' :: '<' :: rest =>
    atToken on depth redirectSpace ['<', '<'] (padded ['<', '<']) ++ onePass on depth rest
  | '>' :: '>' :: rest =>
    atToken on depth redirectSpace ['>', '>'] (padded ['>', '>']) ++ onePass on depth rest
  | '<' :: rest => atToken on depth redirectSpace ['<'] (padded ['<']) ++ onePass on depth rest
  | '>' :: rest => atToken on depth redirectSpace ['>'] (padded ['>']) ++ onePass on depth rest
  | ';' :: rest =>
    atToken on depth pipeSpace [';'] (padded "(?:;|\\n)".toList) ++ onePass on depth rest
  | ' ' :: rest => atToken on depth wideSpace [' '] (blank ++ ['+']) ++ onePass on depth rest
  | '/' :: rest => '\\' :: '/' :: onePass on depth rest
  | '[' :: rest =>
    '[' :: setSigns rest ++ onePass on (depth + 1) (rest.drop (setSigns rest).length)
  | ']' :: rest => ']' :: onePass on (depth - 1) rest
  | '(' :: rest =>
    let name := if depth = 0 then groupName rest else []
    '(' :: escapeSlashes false name ++ onePass on depth (rest.drop name.length)
  | c :: rest => c :: onePass on depth rest
termination_by body.length

/-! ## Blanks and slashes -/

/-- The context after a character that is no token of its own. -/
def following (ctx : Token.Context) (c : Char) : Token.Context :=
  match ctx with
  | .plain => .plain
  | .groupName => if c = '>' then .plain else .groupName
  | .opened d =>
    if c = '^' then .negated d else if c = ']' then .inside d else Token.insideAfter d c
  | .negated d => if c = ']' then .inside d else Token.insideAfter d c
  | .inside d => Token.insideAfter d c
  | .escaped d => .inside d

theorem scan_inert {ctx : Token.Context} (hctx : ctx ≠ .plain) (c : Char) (s : List Char) :
    scan ctx (c :: s) = .inert c :: scan (following ctx c) s := by
  cases ctx <;> first | exact absurd rfl hctx | rw [scan, following]

theorem rewrite_inert {ctx : Token.Context} (hctx : ctx ≠ .plain) (rule : SpacingRule) (c : Char)
    (s : List Char) : rule.rewrite ctx (c :: s) = c :: rule.rewrite (following ctx c) s := by
  rw [rewrite, scan_inert hctx, List.flatMap_cons, replace_of_ne (by simp [Token.rule?])]
  rfl

/-- Whether the rule for slashes may hold, or not, a backslash to come right before a text that
begins in the context. What it holds in a name makes no difference, as a name has no escapes. -/
def Agrees (ctx : Token.Context) (b : Bool) : Prop :=
  match ctx with
  | .groupName => True
  | .escaped _ => b = true
  | _ => b = false

theorem Agrees.ite {p : Prop} [Decidable p] {ctx ctx' : Token.Context} {b : Bool}
    (h : p → Agrees ctx b) (h' : ¬ p → Agrees ctx' b) : Agrees (if p then ctx else ctx') b := by
  split
  · exact h ‹p›
  · exact h' ‹¬ p›

theorem agrees_insideAfter (d : Nat) (c : Char) : Agrees (Token.insideAfter d c) (c == '\\') := by
  refine .ite (fun hc => by simp [hc, Agrees]) fun hback => .ite (fun _ => by simp [hback, Agrees])
    fun _ => .ite (fun _ => .ite ?_ ?_) fun _ => by simp [hback, Agrees]
  all_goals
    intro _
    simp [hback, Agrees]

theorem agrees_following {ctx : Token.Context} (hctx : ctx ≠ .plain) (hb : Agrees ctx false)
    (c : Char) : Agrees (following ctx c) (c == '\\') := by
  cases ctx with
  | plain => exact absurd rfl hctx
  | groupName => exact .ite (fun hc => by simp [hc, Agrees]) fun _ => trivial
  | opened d =>
      exact .ite (fun hc => by simp [hc, Agrees]) fun _ =>
        .ite (fun hc => by simp [hc, Agrees]) fun _ => agrees_insideAfter d c
  | negated d => exact .ite (fun hc => by simp [hc, Agrees]) fun _ => agrees_insideAfter d c
  | inside d => exact agrees_insideAfter d c
  | escaped d => simp [Agrees] at hb

theorem agrees_following_escaped {ctx : Token.Context} (hctx : ctx ≠ .plain)
    (hb : Agrees ctx true) (c : Char) : Agrees (following ctx c) false := by
  cases ctx with
  | groupName => exact .ite (fun _ => rfl) fun _ => trivial
  | escaped d => rfl
  | plain => exact absurd rfl hctx
  | _ => simp [Agrees] at hb

/-- A backslash before a slash changes nothing for what is behind the slash. -/
theorem following_slash {ctx : Token.Context} (hctx : ctx ≠ .plain) (hb : Agrees ctx false) :
    following ctx '\\' ≠ .plain ∧ following (following ctx '\\') '/' = following ctx '/' := by
  cases ctx with
  | plain => exact absurd rfl hctx
  | escaped d => simp [Agrees] at hb
  | _ => simp [following, Token.insideAfter]

private theorem rewrite_escapeSlashes_inert {ctx : Token.Context} (hctx : ctx ≠ .plain) {c : Char}
    {s : List Char} {b : Bool} (hb : Agrees ctx b)
    (ih : ∀ b, Agrees (following ctx c) b →
      rule.rewrite (following ctx c) (escapeSlashes b s) =
        escapeSlashes b (rule.rewrite (following ctx c) s)) :
    rule.rewrite ctx (escapeSlashes b (c :: s)) = escapeSlashes b (rule.rewrite ctx (c :: s)) := by
  rw [rewrite_inert hctx]
  cases b with
  | true => rw [escapeSlashes, escapeSlashes, rewrite_inert hctx,
      ih false (agrees_following_escaped hctx hb c)]
  | false =>
      have hbehind := ih _ (agrees_following hctx hb c)
      by_cases hc : c = '/'
      · subst hc
        obtain ⟨hinner, hskip⟩ := following_slash hctx hb
        rw [escapeSlashes, escapeSlashes, if_pos rfl, if_pos rfl, rewrite_inert hctx,
          rewrite_inert hinner, hskip]
        rw [show ('/' == '\\') = false from rfl] at hbehind
        rw [hbehind]
      · rw [escapeSlashes, escapeSlashes, if_neg hc, if_neg hc, rewrite_inert hctx, hbehind]

/-- What begins a text after the slashes of it were escaped. -/
theorem escapeSlashes_head {s u : List Char} {d : Char} (h : escapeSlashes false s = d :: u) :
    d = '\\' ∨ ∃ v, s = d :: v := by
  cases s with
  | nil => simp [escapeSlashes] at h
  | cons c s =>
      rw [escapeSlashes] at h
      split at h
      · exact Or.inl (List.cons.inj h).1.symm
      · exact Or.inr ⟨s, by rw [(List.cons.inj h).1]⟩

theorem contains_escapeSlashes (b : Bool) (s : List Char) :
    (escapeSlashes b s).contains '>' = s.contains '>' := by
  fun_induction escapeSlashes b s <;> simp_all

theorem escapeSlashes_cons {c : Char} (hslash : c ≠ '/') (hback : c ≠ '\\') (s : List Char) :
    escapeSlashes false (c :: s) = c :: escapeSlashes false s := by
  rw [escapeSlashes, if_neg hslash, beq_false_of_ne hback]

theorem head_escapeSlashes {c : Char} (hslash : c ≠ '/') (hback : c ≠ '\\') (s : List Char) :
    (escapeSlashes false s).head? = some c ↔ s.head? = some c := by
  cases s with
  | nil => simp [escapeSlashes]
  | cons d s =>
      rw [escapeSlashes]
      split
      · rename_i hd
        simp [hd, Ne.symm hback, Ne.symm hslash]
      · simp

/-- Whether a name begins does not depend on the slashes. -/
theorem startsName_escapeSlashes (s : List Char) :
    startsName (escapeSlashes false s) = startsName s := by
  have hother : ∀ {c d : Char} (s : List Char), d ≠ '\\' → c ≠ d →
      ∃ e u, escapeSlashes false (c :: s) = e :: u ∧ e ≠ d := by
    intro c d s hback hd
    obtain ⟨e, u, hu⟩ := List.exists_cons_of_ne_nil (l := escapeSlashes false (c :: s))
      (by rw [escapeSlashes]; split <;> simp)
    refine ⟨e, u, hu, ?_⟩
    rcases escapeSlashes_head hu with rfl | ⟨v, hv⟩
    · exact hback.symm
    · rwa [← (List.cons.inj hv).1]
  cases s with
  | nil => rfl
  | cons c s =>
  by_cases hc : c = '?'
  · subst hc
    rw [escapeSlashes_cons (by decide) (by decide)]
    cases s with
    | nil => rfl
    | cons c s =>
    by_cases hangle : c = '<'
    · subst hangle
      rw [escapeSlashes_cons (by decide) (by decide), Bool.eq_iff_iff, startsName_angle,
        startsName_angle, head_escapeSlashes (by decide) (by decide),
        head_escapeSlashes (by decide) (by decide), contains_escapeSlashes]
    by_cases hletter : c = 'P'
    · subst hletter
      rw [escapeSlashes_cons (by decide) (by decide)]
      cases s with
      | nil => rfl
      | cons c s =>
      by_cases hangle : c = '<'
      · subst hangle
        rw [escapeSlashes_cons (by decide) (by decide), startsName, startsName,
          contains_escapeSlashes]
      · obtain ⟨e, u, hu, he⟩ := hother s (by decide) hangle
        rw [hu, startsName_letter he, startsName_letter hangle]
    · obtain ⟨e, u, hu, he⟩ := hother s (by decide) hangle
      have he' : e ≠ 'P' := by
        rcases escapeSlashes_head hu with rfl | ⟨v, hv⟩
        · decide
        · rwa [← (List.cons.inj hv).1]
      rw [hu, startsName_question he he', startsName_question hangle hletter]
  · obtain ⟨e, u, hu, he⟩ := hother s (by decide) hc
    rw [hu, startsName_of_ne he, startsName_of_ne hc]

/-- A rule for blanks leaves the slashes behind a token as they are. -/
theorem escapeSlashes_replace (rule : SpacingRule) {ctx : Token.Context} {t : Token} {s : List Char}
    (hmem : t ∈ scan ctx s) {u : List Char}
    (htext : escapeSlashes false (t.text ++ u) = t.text ++ escapeSlashes false u) :
    escapeSlashes false (rule.replace t ++ u) = rule.replace t ++ escapeSlashes false u := by
  by_cases ht : t.rule? = some rule
  · exact (escapeSlashes_token hmem ht false u).2
  · rwa [replace_of_ne ht]

private theorem rewrite_escapeSlashes_token {t : Token} {s rest : List Char}
    (hscan : scan .plain s = t :: scan .plain rest)
    (hslash : ∀ u, escapeSlashes false (t.text ++ u) = t.text ++ escapeSlashes false u)
    (hagain : scan .plain (escapeSlashes false s) = t :: scan .plain (escapeSlashes false rest))
    (ih : rule.rewrite .plain (escapeSlashes false rest) =
      escapeSlashes false (rule.rewrite .plain rest)) :
    rule.rewrite .plain (escapeSlashes false s) = escapeSlashes false (rule.rewrite .plain s) := by
  have hmem : t ∈ scan .plain s := by rw [hscan]; exact List.mem_cons_self
  calc rule.rewrite .plain (escapeSlashes false s)
      = rule.replace t ++ rule.rewrite .plain (escapeSlashes false rest) := by
        rw [rewrite, hagain, List.flatMap_cons, rewrite]
    _ = escapeSlashes false (rule.replace t ++ rule.rewrite .plain rest) := by
        rw [ih, escapeSlashes_replace rule hmem (hslash _)]
    _ = escapeSlashes false (rule.rewrite .plain s) := by
        rw [rewrite, rewrite, hscan, List.flatMap_cons]

/-- A rule for blanks and the rule for slashes can change places. -/
theorem rewrite_escapeSlashes (rule : SpacingRule) (ctx : Token.Context) (s : List Char) :
    ∀ b, Agrees ctx b →
      rule.rewrite ctx (escapeSlashes b s) = escapeSlashes b (rule.rewrite ctx s) := by
  induction ctx, s using Token.scan.induct with
  | case1 ctx => intro b _; simp [rewrite, scan, escapeSlashes]
  | case2 c rest ih => exact fun b hb => rewrite_escapeSlashes_inert (by simp) hb ih
  | case3 d c rest ih => exact fun b hb => rewrite_escapeSlashes_inert (by simp) hb ih
  | case4 d c rest ih => exact fun b hb => rewrite_escapeSlashes_inert (by simp) hb ih
  | case5 d c rest ih => exact fun b hb => rewrite_escapeSlashes_inert (by simp) hb ih
  | case6 d c rest ih => exact fun b hb => rewrite_escapeSlashes_inert (by simp) hb ih
  | case7 c rest ih =>
      rintro b rfl
      exact rewrite_escapeSlashes_token (t := .escape c) (by rw [scan])
        (fun u => by simp [escapeSlashes, Token.text]) (by simp [escapeSlashes, scan])
        (ih false rfl)
  | case8 rest ih =>
      rintro b rfl
      exact rewrite_escapeSlashes_token (t := .pair '<') (by rw [scan])
        (fun u => by simp [escapeSlashes, Token.text]) (by simp [escapeSlashes, scan])
        (ih false rfl)
  | case9 rest ih =>
      rintro b rfl
      exact rewrite_escapeSlashes_token (t := .pair '>') (by rw [scan])
        (fun u => by simp [escapeSlashes, Token.text]) (by simp [escapeSlashes, scan])
        (ih false rfl)
  | case10 rest _ _ _ ih =>
      rintro b rfl
      simpa [rewrite, scan, escapeSlashes, replace, Token.text] using ih false rfl
  | case11 c rest hback hless hmore hset hname ih =>
      rintro b rfl
      simp only [Bool.and_eq_true, decide_eq_true_eq] at hname
      obtain ⟨rfl, hname⟩ := hname
      have hname' := hname
      rw [← startsName_escapeSlashes] at hname'
      simpa [rewrite, scan, escapeSlashes, replace, Token.text, hname, hname']
        using ih false trivial
  | case12 c rest hback hless hmore hset hname ih =>
      rintro b rfl
      have hscan : scan .plain (c :: rest) = .char c :: scan .plain rest := by
        rw [scan, if_neg hset, if_neg hname] <;> assumption
      by_cases hslash : c = '/'
      · subst hslash
        simpa [rewrite, scan, escapeSlashes, replace, Token.text] using ih false rfl
      by_cases hescape : c = '\\'
      · subst hescape
        obtain rfl : rest = [] := by
          cases rest with
          | nil => rfl
          | cons d rest => exact (hback d rest rfl rfl).elim
        simp [rewrite, scan, escapeSlashes, replace, Token.text]
      refine rewrite_escapeSlashes_token hscan (fun u => escapeSlashes_cons hslash hescape u) ?_
        (ih false rfl)
      rw [escapeSlashes_cons hslash hescape, scan, if_neg hset, if_neg]
      · rwa [startsName_escapeSlashes]
      · exact fun d u hc _ => (hescape hc).elim
      all_goals
        rintro u rfl hu
        obtain ⟨v, hv⟩ := (escapeSlashes_head hu).resolve_left (by decide)
        first | exact hless v rfl hv | exact hmore v rfl hv

/-! ## The pass and the tokens -/

/-- The context of the tokens in `depth` bracket sets. -/
def contextAt : Nat → Token.Context
  | 0 => .plain
  | depth + 1 => .inside depth

theorem flatMap_written_inert (on : SpacingRule → Bool) (s : List Char) :
    (s.map Token.inert).flatMap (written on) = s := by
  induction s with
  | nil => rfl
  | cons c s ih => rw [List.map_cons, List.flatMap_cons, ih]; rfl

theorem scan_opened (depth : Nat) (s : List Char) :
    scan (.opened depth) s =
      (setSigns s).map Token.inert ++ scan (.inside depth) (s.drop (setSigns s).length) := by
  unfold setSigns
  split
  · simp [scan]
  · rename_i s hset
    cases s with
    | nil => simp [scan]
    | cons c s =>
        have hc : c ≠ ']' := by
          rintro rfl
          exact hset s rfl
        simp [scan, hc]
  · simp [scan]
  · rename_i h h' h''
    cases s with
    | nil => simp [scan]
    | cons c s =>
        have hc : c ≠ '^' ∧ c ≠ ']' := by
          constructor
          · rintro rfl
            exact h' s rfl
          · rintro rfl
            exact h'' s rfl
        simp [scan, hc]

theorem scan_groupName {s : List Char} (h : '>' ∈ s) :
    scan .groupName s =
      (s.take (s.idxOf '>' + 1)).map Token.inert ++ scan .plain (s.drop (s.idxOf '>' + 1)) := by
  induction s with
  | nil => simp at h
  | cons c s ih =>
      by_cases hc : c = '>'
      · subst hc
        simp [scan]
      · have hmem : '>' ∈ s := by simpa [Ne.symm hc] using h
        simp [scan, hc, List.idxOf_cons_ne _ hc, ih hmem]

theorem endsEscaping_concat {c : Char} (hc : c ≠ '\\') (b : Bool) (u : List Char) :
    endsEscaping b (u ++ [c]) = false := by
  fun_induction endsEscaping b u with
  | case1 b => cases b <;> simp [endsEscaping, hc]
  | case2 d u ih => exact ih
  | case3 d u ih => exact ih

theorem escapeSlashes_setSigns (s u : List Char) :
    escapeSlashes false (setSigns s ++ u) = setSigns s ++ escapeSlashes false u := by
  unfold setSigns
  split <;> simp [escapeSlashes]

theorem mem_of_startsName {s : List Char} (h : startsName s = true) : '>' ∈ s := by
  unfold startsName at h
  split at h <;> simp_all

/-- The name of a group ends in its angle bracket. -/
theorem groupName_cases (s : List Char) :
    groupName s = [] ∨ ∃ front, groupName s = front ++ ['>'] := by
  rw [groupName]
  split
  · rename_i h
    refine .inr ⟨s.take (s.idxOf '>'), ?_⟩
    rw [List.take_add_one, List.getElem?_idxOf (mem_of_startsName h)]
    rfl
  · exact .inl rfl

/-- The angle bracket at the end of a name is no backslash. -/
theorem escapeSlashes_groupName (s u : List Char) :
    escapeSlashes false (groupName s ++ u) =
      escapeSlashes false (groupName s) ++ escapeSlashes false u := by
  rcases groupName_cases s with h | ⟨front, h⟩
  · rw [h]
    rfl
  · rw [h, escapeSlashes_append, endsEscaping_concat (by decide)]

variable {on : SpacingRule → Bool} {rest : List Char}

/-- A token of a rule, in bracket sets or not. -/
private theorem escapeSlashes_written_token {t : Token} (ht : t.rule? = some rule) (depth : Nat)
    (hplain : scan .plain (t.text ++ rest) = t :: scan .plain rest)
    (hinside : ∀ d, scan (.inside d) (t.text ++ rest) =
      t.text.map Token.inert ++ scan (.inside d) rest) :
    escapeSlashes false ((scan (contextAt depth) (t.text ++ rest)).flatMap (written on)) =
      atToken on depth rule t.text (rule.replace t) ++
        escapeSlashes false ((scan (contextAt depth) rest).flatMap (written on)) := by
  have hmem : t ∈ scan .plain (t.text ++ rest) := by rw [hplain]; exact List.mem_cons_self
  have hslash := fun u => escapeSlashes_token hmem ht false u
  cases depth with
  | zero =>
      simp only [contextAt, hplain, List.flatMap_cons, written_of_rule? ht, atToken, true_and]
      split
      · exact (hslash _).2
      · exact (hslash _).1
  | succ depth =>
      simp only [contextAt, hinside, List.flatMap_append, flatMap_written_inert, atToken,
        Nat.add_one_ne_zero, false_and, if_false]
      exact (hslash _).1

/-- A parenthesis is kept as it stands, and the name of its group with it. -/
private theorem flatMap_written_paren :
    (scan .plain ('(' :: rest)).flatMap (written on) = '(' ::
      (groupName rest ++
        (scan .plain (rest.drop (groupName rest).length)).flatMap (written on)) := by
  rw [groupName]
  split
  · rename_i h
    have hlength : (rest.take (rest.idxOf '>' + 1)).length = rest.idxOf '>' + 1 := by
      rw [List.length_take, Nat.min_eq_left]
      exact List.idxOf_lt_length_of_mem (mem_of_startsName h)
    rw [hlength, scan, if_neg (by decide), if_pos (by simp [h]), List.flatMap_cons,
      scan_groupName (mem_of_startsName h), List.flatMap_append, flatMap_written_inert]
    · rfl
    all_goals simp
  · rename_i h
    rw [scan_char (by simp) (by simp) (by simp) fun _ => by simpa using h]
    rfl

/-- A character that begins nothing of its own is kept, in bracket sets or not. -/
private theorem flatMap_written_other {c : Char} {depth : Nat} (hback : c = '\\' → rest = [])
    (hless : c ≠ '<') (hmore : c ≠ '>') (hsemi : c ≠ ';') (hspace : c ≠ ' ') (hset : c ≠ '[')
    (hclose : c ≠ ']') (hparen : c ≠ '(') :
    (scan (contextAt depth) (c :: rest)).flatMap (written on) =
      c :: (scan (contextAt depth) rest).flatMap (written on) := by
  cases depth with
  | zero =>
      have hc : (Token.char c).rule? = none := by
        unfold Token.rule?
        split <;> simp_all
      rw [contextAt, scan_char hback (fun h => h.elim hless.elim hmore.elim) hset
        (fun h => (hparen h).elim), List.flatMap_cons, written_of_off (by simp [hc])]
      rfl
  | succ depth =>
      by_cases hc : c = '\\'
      · obtain rfl := hback hc
        simp [hc, contextAt, scan, written, Token.rule?, Token.text]
      · rw [contextAt, scan, Token.insideAfter, if_neg hc, if_neg hset, if_neg hclose]
        rfl

/-- The pass writes what the tokens are written as. -/
theorem escapeSlashes_written (on : SpacingRule → Bool) (depth : Nat) (body : List Char) :
    escapeSlashes false ((scan (contextAt depth) body).flatMap (written on)) =
      onePass on depth body := by
  have head_ne : ∀ {c : Char} {s : List Char}, (∀ u, s = c :: u → False) → s.head? ≠ some c := by
    intro c s h hhead
    exact h s.tail (List.eq_cons_of_mem_head? hhead)
  fun_induction onePass on depth body with
  | case1 depth => simp [scan, escapeSlashes]
  | case2 depth rest ih =>
      rw [← ih]
      exact escapeSlashes_written_token (t := .escape '|') rfl depth (by simp [Token.text, scan])
        fun d => by simp [Token.text, scan, Token.insideAfter]
  | case3 depth c rest hbar ih =>
      have ht : (Token.escape c).rule? = none := by
        unfold Token.rule?
        split <;> simp_all
      cases depth with
      | zero =>
          rw [contextAt, scan, List.flatMap_cons, written_of_off (by simp [ht]), ← ih]
          simp [Token.text, escapeSlashes, contextAt]
      | succ depth =>
          rw [← ih]
          simp [contextAt, scan, Token.insideAfter, written, Token.rule?, Token.text, escapeSlashes]
  | case4 depth rest ih =>
      rw [← ih]
      exact escapeSlashes_written_token (t := .pair '<') rfl depth (by simp [Token.text, scan])
        fun d => by simp [Token.text, scan, Token.insideAfter]
  | case5 depth rest ih =>
      rw [← ih]
      exact escapeSlashes_written_token (t := .pair '>') rfl depth (by simp [Token.text, scan])
        fun d => by simp [Token.text, scan, Token.insideAfter]
  | case6 depth rest hone ih =>
      rw [← ih]
      exact escapeSlashes_written_token (t := .char '<') rfl depth
        (scan_char (by simp) (fun _ => head_ne hone) (by simp) (by simp))
        fun d => by simp [Token.text, scan, Token.insideAfter]
  | case7 depth rest hone ih =>
      rw [← ih]
      exact escapeSlashes_written_token (t := .char '>') rfl depth
        (scan_char (by simp) (fun _ => head_ne hone) (by simp) (by simp))
        fun d => by simp [Token.text, scan, Token.insideAfter]
  | case8 depth rest ih =>
      rw [← ih]
      exact escapeSlashes_written_token (t := .char ';') rfl depth (by simp [Token.text, scan])
        fun d => by simp [Token.text, scan, Token.insideAfter]
  | case9 depth rest ih =>
      rw [← ih]
      exact escapeSlashes_written_token (t := .char ' ') rfl depth (by simp [Token.text, scan])
        fun d => by simp [Token.text, scan, Token.insideAfter]
  | case10 depth rest ih =>
      rw [← ih]
      cases depth <;>
        simp [contextAt, scan, Token.insideAfter, written, Token.rule?, Token.text, escapeSlashes]
  | case11 depth rest ih =>
      have hset : scan (contextAt depth) ('[' :: rest) =
          .inert '[' :: scan (.opened depth) rest := by
        cases depth <;> simp [contextAt, scan, Token.insideAfter]
      rw [hset, List.flatMap_cons, scan_opened, List.flatMap_append, flatMap_written_inert, ← ih]
      simp [written, Token.rule?, Token.text, escapeSlashes, escapeSlashes_setSigns, contextAt]
  | case12 depth rest ih =>
      rw [← ih]
      cases depth with
      | zero => simp [contextAt, scan, written, Token.rule?, Token.text, escapeSlashes]
      | succ depth =>
          cases depth <;> simp [contextAt, scan, Token.insideAfter, written, Token.rule?,
            Token.text, escapeSlashes]
  | case13 depth rest name ih =>
      rw [← ih]
      cases depth with
      | zero =>
          rw [contextAt, flatMap_written_paren, escapeSlashes_cons (by decide) (by decide),
            escapeSlashes_groupName]
          rfl
      | succ depth =>
          simp [name, contextAt, scan, Token.insideAfter, written, Token.rule?, Token.text,
            escapeSlashes]
  | case14 depth c rest _ hescape _ _ hless hmore hsemi hspace hslash hset hclose hparen ih =>
      have hback : c = '\\' → rest = [] := by
        rintro rfl
        cases rest with
        | nil => rfl
        | cons d rest => exact (hescape d rest rfl rfl).elim
      rw [flatMap_written_other hback hless hmore hsemi hspace hset hclose hparen, ← ih]
      by_cases hc : c = '\\'
      · obtain rfl := hback hc
        simp [hc, scan, escapeSlashes]
      · rw [escapeSlashes_cons hslash hc]

/-! ## Every order of the rules -/

/-- Two rules can change places. -/
theorem apply_comm (r r' : SpacingRule) (body : List Char) :
    r.apply (r'.apply body) = r'.apply (r.apply body) := by
  by_cases heq : r = r'
  · rw [heq]
  by_cases hr : r = .escapeSlash
  · subst hr
    rw [apply_eq_rewrite (Ne.symm heq), apply_eq_rewrite (Ne.symm heq)]
    exact (rewrite_escapeSlashes r' .plain body false rfl).symm
  by_cases hr' : r' = .escapeSlash
  · subst hr'
    rw [apply_eq_rewrite hr, apply_eq_rewrite hr]
    exact rewrite_escapeSlashes r .plain body false rfl
  · have hboth : ∀ {q q' : SpacingRule}, q ≠ q' → q ≠ .escapeSlash → q' ≠ .escapeSlash →
        q.apply (q'.apply body) =
          (scan .plain body).flatMap (written fun rule => decide (rule ∈ [q', q])) :=
      fun hne hq hq' => @foldl_apply [_, _] body (by simpa using Ne.symm hne)
        (by simp [Ne.symm hq, Ne.symm hq'])
    rw [hboth heq hr hr', hboth (Ne.symm heq) hr' hr]
    exact List.flatMap_congr fun t _ => written_congr fun rule _ => by simp [or_comm]

/-- In whatever order the rules are applied that the options ask for, what they write is what one
pass over the author's text writes. -/
theorem applyAll_onePass (o : Options) (body : List Char) :
    applyAll o body = onePass (enabled o) 0 body ∧
      ∀ rules : List SpacingRule, rules.Perm (all.filter (enabled o)) →
        rules.foldl (fun text rule => rule.apply text) body = onePass (enabled o) 0 body := by
  have hpass : applyAll o body = onePass (enabled o) 0 body := by
    rw [applyAll_eq]
    exact escapeSlashes_written (enabled o) 0 body
  refine ⟨hpass, fun rules hperm => ?_⟩
  rw [← hpass]
  refine hperm.foldl_eq' (fun r _ r' _ text => ?_) body
  exact apply_comm r' r text

/-- The slashes first and the spaces last. -/
theorem applyAll_onePass_backwards :
    let o : Options := ⟨false, false, true, true, false, true, true⟩
    let body := "(?<a;/>x);[ ;/<]".toList
    [escapeSlash, redirectSpace, pipeSpace, wideSpace].foldl (fun text rule => rule.apply text) body
        = onePass (enabled o) 0 body
      ∧ onePass (enabled o) 0 body
        = "(?<a;\\/>x)[ \\t]*(?:;|\\n)[ \\t]*[ ;\\/<]".toList := by
  intro o body
  obtain ⟨hforwards, hany⟩ := applyAll_onePass o body
  refine ⟨hany _ (by decide), ?_⟩
  rw [← hforwards]
  decide

end SpacingRule

end Gapfill
