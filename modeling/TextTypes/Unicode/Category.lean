/-!
General categories and sets of them.

A category has a fixed ordinal, which is its bit in a mask of 64 bits.
-/

namespace TextTypes.Unicode

/-- The general categories, in the order of their ordinals. -/
inductive Category
  | lu | ll | lt | lm | lo
  | mn | mc | me
  | nd | nl | no
  | pc | pd | ps | pe | pi | pf | po
  | sm | sc | sk | so
  | zs | zl | zp
  | cc | cf | cs | co | cn
  deriving DecidableEq, Repr

namespace Category

def all : List Category :=
  [lu, ll, lt, lm, lo, mn, mc, me, nd, nl, no, pc, pd, ps, pe, pi, pf, po, sm, sc, sk, so,
    zs, zl, zp, cc, cf, cs, co, cn]

def ordinal : Category → Nat
  | lu => 0 | ll => 1 | lt => 2 | lm => 3 | lo => 4
  | mn => 5 | mc => 6 | me => 7
  | nd => 8 | nl => 9 | no => 10
  | pc => 11 | pd => 12 | ps => 13 | pe => 14 | pi => 15 | pf => 16 | po => 17
  | sm => 18 | sc => 19 | sk => 20 | so => 21
  | zs => 22 | zl => 23 | zp => 24
  | cc => 25 | cf => 26 | cs => 27 | co => 28 | cn => 29

def ofOrdinal? (n : Nat) : Option Category := all[n]?

def abbreviation : Category → String
  | lu => "Lu" | ll => "Ll" | lt => "Lt" | lm => "Lm" | lo => "Lo"
  | mn => "Mn" | mc => "Mc" | me => "Me"
  | nd => "Nd" | nl => "Nl" | no => "No"
  | pc => "Pc" | pd => "Pd" | ps => "Ps" | pe => "Pe" | pi => "Pi" | pf => "Pf" | po => "Po"
  | sm => "Sm" | sc => "Sc" | sk => "Sk" | so => "So"
  | zs => "Zs" | zl => "Zl" | zp => "Zp"
  | cc => "Cc" | cf => "Cf" | cs => "Cs" | co => "Co" | cn => "Cn"

def name : Category → String
  | lu => "UppercaseLetter" | ll => "LowercaseLetter" | lt => "TitlecaseLetter"
  | lm => "ModifierLetter" | lo => "OtherLetter"
  | mn => "NonspacingMark" | mc => "SpacingMark" | me => "EnclosingMark"
  | nd => "DecimalNumber" | nl => "LetterNumber" | no => "OtherNumber"
  | pc => "ConnectorPunctuation" | pd => "DashPunctuation"
  | ps => "OpenPunctuation" | pe => "ClosePunctuation"
  | pi => "InitialPunctuation" | pf => "FinalPunctuation" | po => "OtherPunctuation"
  | sm => "MathSymbol" | sc => "CurrencySymbol" | sk => "ModifierSymbol" | so => "OtherSymbol"
  | zs => "SpaceSeparator" | zl => "LineSeparator" | zp => "ParagraphSeparator"
  | cc => "Control" | cf => "Format" | cs => "Surrogate" | co => "PrivateUse"
  | cn => "Unassigned"

def isLetter (c : Category) : Bool := c.ordinal ≤ lo.ordinal

def ofAbbreviation? (s : String) : Option Category := all.find? (·.abbreviation == s)

end Category

/-- A set of categories, one bit each. -/
abbrev CategoryMask := BitVec 64

namespace CategoryMask

def bit (c : Category) : CategoryMask := 1#64 <<< c.ordinal

def has (mask : CategoryMask) (c : Category) : Bool := mask.getLsbD c.ordinal

def ofList (cs : List Category) : CategoryMask := cs.foldl (fun mask c => mask ||| bit c) 0#64

/-- The members, by ordinal. -/
def toList (mask : CategoryMask) : List Category := Category.all.filter mask.has

end CategoryMask

end TextTypes.Unicode
