/-!
# General categories

Every code point has exactly one general category, known by a two-letter
abbreviation. The groups of categories (`L` for all letters, and so on) are
lists of categories.
-/

namespace Gapfill.Unicode

/-- The general category of a code point, under its usual abbreviation. -/
inductive Category where
  /-- Uppercase letter. -/
  | Lu
  /-- Lowercase letter. -/
  | Ll
  /-- Titlecase letter. -/
  | Lt
  /-- Modifier letter. -/
  | Lm
  /-- Other letter. -/
  | Lo
  /-- Nonspacing mark. -/
  | Mn
  /-- Spacing mark. -/
  | Mc
  /-- Enclosing mark. -/
  | Me
  /-- Decimal number. -/
  | Nd
  /-- Letter number. -/
  | Nl
  /-- Other number. -/
  | No
  /-- Connector punctuation. -/
  | Pc
  /-- Dash punctuation. -/
  | Pd
  /-- Open punctuation. -/
  | Ps
  /-- Close punctuation. -/
  | Pe
  /-- Initial punctuation. -/
  | Pi
  /-- Final punctuation. -/
  | Pf
  /-- Other punctuation. -/
  | Po
  /-- Math symbol. -/
  | Sm
  /-- Currency symbol. -/
  | Sc
  /-- Modifier symbol. -/
  | Sk
  /-- Other symbol. -/
  | So
  /-- Space separator. -/
  | Zs
  /-- Line separator. -/
  | Zl
  /-- Paragraph separator. -/
  | Zp
  /-- Control. -/
  | Cc
  /-- Format. -/
  | Cf
  /-- Surrogate. -/
  | Cs
  /-- Private use. -/
  | Co
  /-- Unassigned. -/
  | Cn
deriving DecidableEq

namespace Category

def letters : List Category := [Lu, Ll, Lt, Lm, Lo]
def marks : List Category := [Mn, Mc, Me]
def numbers : List Category := [Nd, Nl, No]
def punctuation : List Category := [Pc, Pd, Ps, Pe, Pi, Pf, Po]
def symbols : List Category := [Sm, Sc, Sk, So]
def separators : List Category := [Zs, Zl, Zp]
/-- Control, format, private use and unassigned; no character is a surrogate. -/
def others : List Category := [Cc, Cf, Co, Cn]

/-- The names of a category or group in loose spelling, with what they stand for. -/
def named : List (List String × List Category) := [
  (["c", "other"], others),
  (["cc", "control", "cntrl"], [Cc]),
  (["cf", "format"], [Cf]),
  (["cn", "unassigned"], [Cn]),
  (["co", "privateuse"], [Co]),
  (["l", "letter"], letters),
  (["lc", "casedletter"], [Lu, Ll, Lt]),
  (["ll", "lowercaseletter"], [Ll]),
  (["lm", "modifierletter"], [Lm]),
  (["lo", "otherletter"], [Lo]),
  (["lt", "titlecaseletter"], [Lt]),
  (["lu", "uppercaseletter"], [Lu]),
  (["m", "mark", "combiningmark"], marks),
  (["mc", "spacingmark"], [Mc]),
  (["me", "enclosingmark"], [Me]),
  (["mn", "nonspacingmark"], [Mn]),
  (["n", "number"], numbers),
  (["nd", "decimalnumber", "digit"], [Nd]),
  (["nl", "letternumber"], [Nl]),
  (["no", "othernumber"], [No]),
  (["p", "punctuation", "punct"], punctuation),
  (["pc", "connectorpunctuation"], [Pc]),
  (["pd", "dashpunctuation"], [Pd]),
  (["pe", "closepunctuation"], [Pe]),
  (["pf", "finalpunctuation"], [Pf]),
  (["pi", "initialpunctuation"], [Pi]),
  (["po", "otherpunctuation"], [Po]),
  (["ps", "openpunctuation"], [Ps]),
  (["s", "symbol"], symbols),
  (["sc", "currencysymbol"], [Sc]),
  (["sk", "modifiersymbol"], [Sk]),
  (["sm", "mathsymbol"], [Sm]),
  (["so", "othersymbol"], [So]),
  (["z", "separator"], separators),
  (["zl", "lineseparator"], [Zl]),
  (["zp", "paragraphseparator"], [Zp]),
  (["zs", "spaceseparator"], [Zs]),
  (["any"], letters ++ marks ++ numbers ++ punctuation ++ symbols ++ separators ++ others),
  (["assigned"],
    letters ++ marks ++ numbers ++ punctuation ++ symbols ++ separators ++ [Cc, Cf, Co])]

end Category

end Gapfill.Unicode
