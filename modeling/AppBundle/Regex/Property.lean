import AppBundle.Regex.CharSet
import AppBundle.Text.Category
import AppBundle.Text.Script

/-!
# Character properties

A property of characters is asked for by a name, of a property that holds or fails, a general
category or a script, or by the name of a property and a value of it. Names are compared in their
normal form.
-/

namespace AppBundle

namespace CharSet

/-- The normal form of a property name: in lower case, without blanks, `_`, `-`, an `is` in front or
anything beyond ASCII. -/
def propertyName (name : Text) : Text :=
  let kept (t : Text) : Text :=
    (t.filter fun c => c ≠ ' ' && c ≠ '_' && c ≠ '-' && c.toNat < 128).map Char.toLower
  match name with
  | i :: s :: rest =>
    if i.toLower = 'i' ∧ s.toLower = 's' then
      if kept rest = ['c'] then "isc".toList else kept rest
    else kept name
  | _ => kept name

/-- The union of tables. -/
def ofTables (tables : List (List (Nat × Nat))) : CharSet := ofList (tables.map table)

def letters : List (List (Nat × Nat)) :=
  [Category.uppercaseLetter, Category.lowercaseLetter, Category.titlecaseLetter,
    Category.modifierLetter, Category.otherLetter]

def marks : List (List (Nat × Nat)) :=
  [Category.nonspacingMark, Category.spacingMark, Category.enclosingMark]

def numbers : List (List (Nat × Nat)) :=
  [CharClass.digitRanges, Category.letterNumber, Category.otherNumber]

def punctuation : List (List (Nat × Nat)) :=
  [Category.connectorPunctuation, Category.dashPunctuation, Category.openPunctuation,
    Category.closePunctuation, Category.initialPunctuation, Category.finalPunctuation,
    Category.otherPunctuation]

def symbols : List (List (Nat × Nat)) :=
  [Category.mathSymbol, Category.currencySymbol, Category.modifierSymbol, Category.otherSymbol]

def separators : List (List (Nat × Nat)) :=
  [Category.spaceSeparator, Category.lineSeparator, Category.paragraphSeparator]

/-- The code points of some general category. -/
def assigned : CharSet :=
  ofTables (letters ++ marks ++ numbers ++ punctuation ++ symbols ++ separators ++
    [Category.control, Category.format, Category.privateUse, Category.surrogate])

/-- The set of a general category, or of several, by its name in normal form. -/
def category? (name : Text) : Option CharSet :=
  match String.ofList name with
  | "any" => some (compl none)
  | "assigned" => some assigned
  | "ascii" => some (range 0 127)
  | "l" | "letter" => some (ofTables letters)
  | "lc" | "casedletter" =>
    some (ofTables
      [Category.uppercaseLetter, Category.lowercaseLetter, Category.titlecaseLetter])
  | "lu" | "uppercaseletter" => some (table Category.uppercaseLetter)
  | "ll" | "lowercaseletter" => some (table Category.lowercaseLetter)
  | "lt" | "titlecaseletter" => some (table Category.titlecaseLetter)
  | "lm" | "modifierletter" => some (table Category.modifierLetter)
  | "lo" | "otherletter" => some (table Category.otherLetter)
  | "m" | "mark" | "combiningmark" => some (ofTables marks)
  | "mn" | "nonspacingmark" => some (table Category.nonspacingMark)
  | "mc" | "spacingmark" => some (table Category.spacingMark)
  | "me" | "enclosingmark" => some (table Category.enclosingMark)
  | "n" | "number" => some (ofTables numbers)
  | "nd" | "decimalnumber" | "digit" => some (table CharClass.digitRanges)
  | "nl" | "letternumber" => some (table Category.letterNumber)
  | "no" | "othernumber" => some (table Category.otherNumber)
  | "p" | "punctuation" | "punct" => some (ofTables punctuation)
  | "pc" | "connectorpunctuation" => some (table Category.connectorPunctuation)
  | "pd" | "dashpunctuation" => some (table Category.dashPunctuation)
  | "ps" | "openpunctuation" => some (table Category.openPunctuation)
  | "pe" | "closepunctuation" => some (table Category.closePunctuation)
  | "pi" | "initialpunctuation" => some (table Category.initialPunctuation)
  | "pf" | "finalpunctuation" => some (table Category.finalPunctuation)
  | "po" | "otherpunctuation" => some (table Category.otherPunctuation)
  | "s" | "symbol" => some (ofTables symbols)
  | "sm" | "mathsymbol" => some (table Category.mathSymbol)
  | "sc" | "currencysymbol" => some (table Category.currencySymbol)
  | "sk" | "modifiersymbol" => some (table Category.modifierSymbol)
  | "so" | "othersymbol" => some (table Category.otherSymbol)
  | "z" | "separator" => some (ofTables separators)
  | "zs" | "spaceseparator" => some (table Category.spaceSeparator)
  | "zl" | "lineseparator" => some (table Category.lineSeparator)
  | "zp" | "paragraphseparator" => some (table Category.paragraphSeparator)
  | "c" | "other" =>
    some (union (ofTables [Category.control, Category.format, Category.privateUse])
      (compl assigned))
  | "cc" | "control" | "cntrl" => some (table Category.control)
  | "cf" | "format" => some (table Category.format)
  | "co" | "privateuse" => some (table Category.privateUse)
  | "cn" | "unassigned" => some (compl assigned)
  | _ => Option.none

/-- The letters in lower case that are not filed as such. -/
def otherLowercase : List (Nat × Nat) := [
  (170, 170), (186, 186), (688, 696), (704, 705), (736, 740), (837, 837), (890, 890), (4348, 4348),
  (7468, 7530), (7544, 7544), (7579, 7615), (8305, 8305), (8319, 8319), (8336, 8348), (8560, 8575),
  (9424, 9449), (11388, 11389), (42652, 42653), (42864, 42864), (42994, 42996), (43000, 43001),
  (43868, 43871), (43881, 43881), (67456, 67456), (67459, 67461), (67463, 67504), (67506, 67514),
  (122928, 122989)]

/-- The characters in upper case that are not filed as letters. -/
def otherUppercase : List (Nat × Nat) := [
  (8544, 8559), (9398, 9423), (127280, 127305), (127312, 127337), (127344, 127369)]

/-- What identifiers start with. -/
def identifierStart : CharSet :=
  union (diff (ofTables (letters ++ [Category.letterNumber])) (range 11823 11823))
    (table [(6277, 6278), (8472, 8472), (8494, 8494), (12443, 12444)])

/-- What identifiers go on with. -/
def identifierPart : CharSet :=
  union identifierStart
    (ofTables [Category.nonspacingMark, Category.spacingMark, CharClass.digitRanges,
      Category.connectorPunctuation, [(183, 183), (903, 903), (4969, 4977), (6618, 6618)]])

/-- The code points that are pictures or parts of pictures. -/
def emoji : List (Nat × Nat) := [
  (35, 35), (42, 42), (48, 57), (169, 169), (174, 174), (8252, 8252), (8265, 8265), (8482, 8482),
  (8505, 8505), (8596, 8601), (8617, 8618), (8986, 8987), (9000, 9000), (9167, 9167), (9193, 9203),
  (9208, 9210), (9410, 9410), (9642, 9643), (9654, 9654), (9664, 9664), (9723, 9726), (9728, 9732),
  (9742, 9742), (9745, 9745), (9748, 9749), (9752, 9752), (9757, 9757), (9760, 9760), (9762, 9763),
  (9766, 9766), (9770, 9770), (9774, 9775), (9784, 9786), (9792, 9792), (9794, 9794), (9800, 9811),
  (9823, 9824), (9827, 9827), (9829, 9830), (9832, 9832), (9851, 9851), (9854, 9855), (9874, 9879),
  (9881, 9881), (9883, 9884), (9888, 9889), (9895, 9895), (9898, 9899), (9904, 9905), (9917, 9918),
  (9924, 9925), (9928, 9928), (9934, 9935), (9937, 9937), (9939, 9940), (9961, 9962), (9968, 9973),
  (9975, 9978), (9981, 9981), (9986, 9986), (9989, 9989), (9992, 9997), (9999, 9999),
  (10002, 10002), (10004, 10004), (10006, 10006), (10013, 10013), (10017, 10017), (10024, 10024),
  (10035, 10036), (10052, 10052), (10055, 10055), (10060, 10060), (10062, 10062), (10067, 10069),
  (10071, 10071), (10083, 10084), (10133, 10135), (10145, 10145), (10160, 10160), (10175, 10175),
  (10548, 10549), (11013, 11015), (11035, 11036), (11088, 11088), (11093, 11093), (12336, 12336),
  (12349, 12349), (12951, 12951), (12953, 12953), (126980, 126980), (127183, 127183),
  (127344, 127345), (127358, 127359), (127374, 127374), (127377, 127386), (127462, 127487),
  (127489, 127490), (127514, 127514), (127535, 127535), (127538, 127546), (127568, 127569),
  (127744, 127777), (127780, 127891), (127894, 127895), (127897, 127899), (127902, 127984),
  (127987, 127989), (127991, 128253), (128255, 128317), (128329, 128334), (128336, 128359),
  (128367, 128368), (128371, 128378), (128391, 128391), (128394, 128397), (128400, 128400),
  (128405, 128406), (128420, 128421), (128424, 128424), (128433, 128434), (128444, 128444),
  (128450, 128452), (128465, 128467), (128476, 128478), (128481, 128481), (128483, 128483),
  (128488, 128488), (128495, 128495), (128499, 128499), (128506, 128591), (128640, 128709),
  (128715, 128722), (128725, 128727), (128732, 128741), (128745, 128745), (128747, 128748),
  (128752, 128752), (128755, 128764), (128992, 129003), (129008, 129008), (129292, 129338),
  (129340, 129349), (129351, 129535), (129648, 129660), (129664, 129672), (129680, 129725),
  (129727, 129733), (129742, 129755), (129760, 129768), (129776, 129784)]

/-- The set of a property that holds or fails, by its name in normal form. -/
def binaryProperty? (name : Text) : Option CharSet :=
  let lower := ofTables [Category.lowercaseLetter, otherLowercase]
  let upper := ofTables [Category.uppercaseLetter, otherUppercase]
  match String.ofList name with
  | "alphabetic" | "alpha" => some (table CharClass.letterRanges)
  | "whitespace" | "wspace" | "space" => some (table CharClass.blankRanges)
  | "lowercase" | "lower" => some lower
  | "uppercase" | "upper" => some upper
  | "cased" => some (.union (.union lower upper) (table Category.titlecaseLetter))
  | "idstart" | "ids" => some identifierStart
  | "idcontinue" | "idc" => some identifierPart
  | "emoji" => some (table emoji)
  | "asciihexdigit" | "ahex" => some (table [(48, 57), (65, 70), (97, 102)])
  | "hexdigit" | "hex" =>
    some (table [(48, 57), (65, 70), (97, 102), (65296, 65305), (65313, 65318), (65345, 65350)])
  | _ => Option.none

/-- The set of a property or of a value that needs no property name. -/
def property? (name : Text) : Option CharSet :=
  let name := propertyName name
  let script := (Script.named? (String.ofList name)).map (table ·.ranges)
  if ["cf", "sc", "lc"].contains (String.ofList name) then category? name
  else ((binaryProperty? name).or (category? name)).or script

/-- The set of a value of a property. -/
def propertyValue? (name value : Text) : Option CharSet :=
  let value := propertyName value
  match String.ofList (propertyName name) with
  | "gc" | "generalcategory" | "category" => category? value
  | "sc" | "script" => (Script.named? (String.ofList value)).map (table ·.ranges)
  | _ => Option.none

end CharSet

end AppBundle
