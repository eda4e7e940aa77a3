import RegexProse.Text.Basic

/-!
# Character properties

The names by which an expression may ask for characters: general categories, scripts and properties
that a character has or has not, as version 16 of Unicode names them, and properties with a value.
Case, spaces, hyphens and low lines in a name do not count, and neither does a leading `is`.
-/

set_option autoImplicit false

namespace RegexProse.Syntax

/-- The names of the general categories in their plain form, short and long. -/
def categoryNames : List String :=
  ["any", "assigned", "ascii",
    "l", "letter", "lc", "casedletter", "lu", "uppercaseletter", "ll", "lowercaseletter",
    "lt", "titlecaseletter", "lm", "modifierletter", "lo", "otherletter",
    "m", "mark", "combiningmark", "mn", "nonspacingmark", "mc", "spacingmark",
    "me", "enclosingmark",
    "n", "number", "nd", "decimalnumber", "digit", "nl", "letternumber", "no", "othernumber",
    "p", "punct", "punctuation", "pc", "connectorpunctuation", "pd", "dashpunctuation",
    "ps", "openpunctuation", "pe", "closepunctuation", "pi", "initialpunctuation",
    "pf", "finalpunctuation", "po", "otherpunctuation",
    "s", "symbol", "sm", "mathsymbol", "sc", "currencysymbol", "sk", "modifiersymbol",
    "so", "othersymbol",
    "z", "separator", "zs", "spaceseparator", "zl", "lineseparator", "zp", "paragraphseparator",
    "c", "other", "cc", "control", "cntrl", "cf", "format", "co", "privateuse",
    "cn", "unassigned"]

def scriptNames : List String :=
  ["adlm", "adlam", "aghb", "caucasianalbanian", "ahom", "arab", "arabic", "armi",
    "imperialaramaic", "armn", "armenian", "avst", "avestan", "bali", "balinese", "bamu", "bamum",
    "bass", "bassavah", "batk", "batak", "beng", "bengali", "bhks", "bhaiksuki", "bopo", "bopomofo",
    "brah", "brahmi", "brai", "braille", "bugi", "buginese", "buhd", "buhid", "cakm", "chakma",
    "cans", "canadianaboriginal", "cari", "carian", "cham", "cher", "cherokee", "chrs",
    "chorasmian", "copt", "coptic", "qaac", "cpmn", "cyprominoan", "cprt", "cypriot", "cyrl",
    "cyrillic", "deva", "devanagari", "diak", "divesakuru", "dogr", "dogra", "dsrt", "deseret",
    "dupl", "duployan", "egyp", "egyptianhieroglyphs", "elba", "elbasan", "elym", "elymaic", "ethi",
    "ethiopic", "gara", "garay", "geor", "georgian", "glag", "glagolitic", "gong", "gunjalagondi",
    "gonm", "masaramgondi", "goth", "gothic", "gran", "grantha", "grek", "greek", "gujr",
    "gujarati", "gukh", "gurungkhema", "guru", "gurmukhi", "hang", "hangul", "hani", "han", "hano",
    "hanunoo", "hatr", "hatran", "hebr", "hebrew", "hira", "hiragana", "hluw",
    "anatolianhieroglyphs", "hmng", "pahawhhmong", "hmnp", "nyiakengpuachuehmong", "hung",
    "oldhungarian", "ital", "olditalic", "java", "javanese", "kali", "kayahli", "kana", "katakana",
    "kawi", "khar", "kharoshthi", "khmr", "khmer", "khoj", "khojki", "kits", "khitansmallscript",
    "knda", "kannada", "krai", "kiratrai", "kthi", "kaithi", "lana", "taitham", "laoo", "lao",
    "latn", "latin", "lepc", "lepcha", "limb", "limbu", "lina", "lineara", "linb", "linearb",
    "lisu", "lyci", "lycian", "lydi", "lydian", "mahj", "mahajani", "maka", "makasar", "mand",
    "mandaic", "mani", "manichaean", "marc", "marchen", "medf", "medefaidrin", "mend",
    "mendekikakui", "merc", "meroiticcursive", "mero", "meroitichieroglyphs", "mlym", "malayalam",
    "modi", "mong", "mongolian", "mroo", "mro", "mtei", "meeteimayek", "mult", "multani", "mymr",
    "myanmar", "nagm", "nagmundari", "nand", "nandinagari", "narb", "oldnortharabian", "nbat",
    "nabataean", "newa", "nkoo", "nko", "nshu", "nushu", "ogam", "ogham", "olck", "olchiki", "onao",
    "olonal", "orkh", "oldturkic", "orya", "oriya", "osge", "osage", "osma", "osmanya", "ougr",
    "olduyghur", "palm", "palmyrene", "pauc", "paucinhau", "perm", "oldpermic", "phag", "phagspa",
    "phli", "inscriptionalpahlavi", "phlp", "psalterpahlavi", "phnx", "phoenician", "plrd", "miao",
    "prti", "inscriptionalparthian", "rjng", "rejang", "rohg", "hanifirohingya", "runr", "runic",
    "samr", "samaritan", "sarb", "oldsoutharabian", "saur", "saurashtra", "sgnw", "signwriting",
    "shaw", "shavian", "shrd", "sharada", "sidd", "siddham", "sind", "khudawadi", "sinh", "sinhala",
    "sogd", "sogdian", "sogo", "oldsogdian", "sora", "sorasompeng", "soyo", "soyombo", "sund",
    "sundanese", "sunu", "sunuwar", "sylo", "sylotinagri", "syrc", "syriac", "tagb", "tagbanwa",
    "takr", "takri", "tale", "taile", "talu", "newtailue", "taml", "tamil", "tang", "tangut",
    "tavt", "taiviet", "telu", "telugu", "tfng", "tifinagh", "tglg", "tagalog", "thaa", "thaana",
    "thai", "tibt", "tibetan", "tirh", "tirhuta", "tnsa", "tangsa", "todr", "todhri", "toto",
    "tutg", "tulutigalari", "ugar", "ugaritic", "vaii", "vai", "vith", "vithkuqi", "wara",
    "warangciti", "wcho", "wancho", "xpeo", "oldpersian", "xsux", "cuneiform", "yezi", "yezidi",
    "yiii", "yi", "zanb", "zanabazarsquare", "zinh", "inherited", "qaai", "zyyy", "common"]

/-- The names of the properties that a character has or has not. -/
def binaryNames : List String :=
  ["ahex", "asciihexdigit", "alpha", "alphabetic", "bidic", "bidicontrol", "bidim", "bidimirrored",
    "ci", "caseignorable", "cased", "cwcf", "changeswhencasefolded", "cwcm",
    "changeswhencasemapped", "cwl", "changeswhenlowercased", "cwt", "changeswhentitlecased", "cwu",
    "changeswhenuppercased", "dash", "di", "defaultignorablecodepoint", "dep", "deprecated", "dia",
    "diacritic", "emoji", "ecomp", "emojicomponent", "emod", "emojimodifier", "ebase",
    "emojimodifierbase", "epres", "emojipresentation", "extpict", "extendedpictographic", "ext",
    "extender", "grbase", "graphemebase", "grext", "graphemeextend", "grlink", "graphemelink",
    "hex", "hexdigit", "hyphen", "idsb", "idsbinaryoperator", "idst", "idstrinaryoperator", "idsu",
    "idsunaryoperator", "idcompatmathcontinue", "idcompatmathstart", "idc", "idcontinue", "ids",
    "idstart", "ideo", "ideographic", "joinc", "joincontrol", "loe", "logicalorderexception",
    "lower", "lowercase", "math", "mcm", "modifiercombiningmark", "nchar", "noncharactercodepoint",
    "oalpha", "otheralphabetic", "odi", "otherdefaultignorablecodepoint", "ogrext",
    "othergraphemeextend", "oidc", "otheridcontinue", "oids", "otheridstart", "olower",
    "otherlowercase", "omath", "othermath", "oupper", "otheruppercase", "patsyn", "patternsyntax",
    "patws", "patternwhitespace", "pcm", "prependedconcatenationmark", "qmark", "quotationmark",
    "radical", "ri", "regionalindicator", "sterm", "sentenceterminal", "sd", "softdotted", "term",
    "terminalpunctuation", "uideo", "unifiedideograph", "upper", "uppercase", "vs",
    "variationselector", "wspace", "whitespace", "space", "xidc", "xidcontinue", "xids", "xidstart"]

/-- The versions of the standard that a character may be in. -/
def versionNames : List String :=
  ["1.1", "v11", "2.0", "v20", "2.1", "v21", "3.0", "v30", "3.1", "v31", "3.2", "v32", "4.0", "v40",
    "4.1", "v41", "5.0", "v50", "5.1", "v51", "5.2", "v52", "6.0", "v60", "6.1", "v61", "6.2",
    "v62", "6.3", "v63", "7.0", "v70", "8.0", "v80", "9.0", "v90", "10.0", "v100", "11.0", "v110",
    "12.0", "v120", "12.1", "v121", "13.0", "v130", "14.0", "v140", "15.0", "v150", "15.1", "v151",
    "16.0", "v160"]

def graphemeBreakNames : List String :=
  ["cn", "control", "cr", "ex", "extend", "l", "lf", "lv", "lvt", "pp", "prepend", "ri",
    "regionalindicator", "sm", "spacingmark", "t", "v", "zwj"]

def sentenceBreakNames : List String :=
  ["at", "aterm", "cl", "close", "cr", "ex", "extend", "fo", "format", "le", "oletter", "lf", "lo",
    "lower", "nu", "numeric", "sc", "scontinue", "se", "sep", "sp", "st", "sterm", "up", "upper"]

def wordBreakNames : List String :=
  ["cr", "dq", "doublequote", "ex", "extendnumlet", "extend", "fo", "format", "hl", "hebrewletter",
    "ka", "katakana", "le", "aletter", "lf", "mb", "midnumlet", "ml", "midletter", "mn", "midnum",
    "nl", "newline", "nu", "numeric", "ri", "regionalindicator", "sq", "singlequote", "wsegspace",
    "zwj"]

/-- The properties that are asked for by their values, with the names of these. -/
def valuedNames : List (List String × List String) :=
  [(["gc", "generalcategory"], categoryNames), (["sc", "script"], scriptNames),
    (["scx", "scriptextensions"], scriptNames), (["age"], versionNames),
    (["gcb", "graphemeclusterbreak"], graphemeBreakNames),
    (["sb", "sentencebreak"], sentenceBreakNames), (["wb", "wordbreak"], wordBreakNames)]

/-- The letters of a name that count, in lower case. -/
def nameLetters (name : Text) : Text :=
  (name.filter fun char => char.toNat < 128 && !([' ', '_', '-'].contains char)).map Char.toLower

/-- A name without the parts that do not count. A leading `is` before a lone `c` does count:
together they name another property. -/
def plainName (name : Text) : Text :=
  match name with
  | first :: second :: rest =>
    if first.toLower = 'i' && second.toLower = 's' && nameLetters rest ≠ ['c'] then
      nameLetters rest
    else nameLetters name
  | name => nameLetters name

/-- The characters that names in their plain form are made of. -/
def inPlainName (char : Char) : Bool := char.isAlphanum || char = '.'

def isListed (names : List String) (name : Text) : Bool :=
  (plainName name).all inPlainName && names.any (·.toList = plainName name)

/-- What stands before the first mark in a text, and what stands behind it. -/
def splitAt? (mark : Text) : Text → Option (Text × Text)
  | [] => none
  | char :: rest =>
    if mark.isPrefixOf (char :: rest) then some ([], (char :: rest).drop mark.length)
    else (splitAt? mark rest).map fun (before, behind) => (char :: before, behind)

/-- The marks between a property and a value, in the order in which they are looked for. -/
def valueMarks : List Text := ["!=", ":", "="]

/-- Whether a text names a property, or a property and one of its values. -/
def isPropertyName (name : Text) : Bool :=
  match valueMarks.findSome? (splitAt? · name) with
  | some (property, value) =>
    valuedNames.any fun (names, values) => isListed names property && isListed values value
  | none => isListed (categoryNames ++ scriptNames ++ binaryNames) name

end RegexProse.Syntax
