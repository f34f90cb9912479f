/-!
# Names of character properties

A class such as the letters or the Greek script is named by a property of characters. Names are
compared loosely: case, blanks, hyphens and underscores do not count, nor does a leading `is`.
-/

namespace ComposeLint.Regex.Property

/-- Properties that a character has or has not. -/
def flags : List String := [
  "ahex", "asciihexdigit", "alpha", "alphabetic", "bidic", "bidicontrol", "bidim", "bidimirrored",
  "ci", "caseignorable", "cased", "cwcf", "changeswhencasefolded", "cwcm",
  "changeswhencasemapped", "cwl", "changeswhenlowercased", "cwt", "changeswhentitlecased", "cwu",
  "changeswhenuppercased", "dash", "di", "defaultignorablecodepoint", "dep", "deprecated", "dia",
  "diacritic", "emoji", "ecomp", "emojicomponent", "emod", "emojimodifier", "ebase",
  "emojimodifierbase", "epres", "emojipresentation", "extpict", "extendedpictographic", "ext",
  "extender", "grbase", "graphemebase", "grext", "graphemeextend", "grlink", "graphemelink",
  "hex", "hexdigit", "hyphen", "idsb", "idsbinaryoperator", "idst", "idstrinaryoperator", "idsu",
  "idsunaryoperator", "idcompatmathcontinue", "idcompatmathstart", "idc", "idcontinue", "ids",
  "idstart", "ideo", "ideographic", "joinc", "joincontrol", "loe", "logicalorderexception",
  "lower", "lowercase", "math", "mcm", "modifiercombiningmark", "nchar", "noncharactercodepoint",
  "oalpha", "otheralphabetic", "odi", "otherdefaultignorablecodepoint", "ogrext",
  "othergraphemeextend", "oidc", "otheridcontinue", "oids", "otheridstart", "olower",
  "otherlowercase", "omath", "othermath", "oupper", "otheruppercase", "patsyn", "patternsyntax",
  "patws", "patternwhitespace", "pcm", "prependedconcatenationmark", "qmark", "quotationmark",
  "radical", "ri", "regionalindicator", "sterm", "sentenceterminal", "sd", "softdotted", "term",
  "terminalpunctuation", "uideo", "unifiedideograph", "upper", "uppercase", "vs",
  "variationselector", "space", "wspace", "whitespace", "xidc", "xidcontinue", "xids", "xidstart"]

/-- General categories, and the three sets that are named like them. No character is a surrogate. -/
def categories : List String := [
  "any", "assigned", "ascii", "c", "other", "cc", "control", "cntrl", "cf", "format", "cn",
  "unassigned", "co", "privateuse", "l", "letter", "lc", "casedletter", "ll", "lowercaseletter",
  "lm", "modifierletter", "lo", "otherletter", "lt", "titlecaseletter", "lu", "uppercaseletter",
  "m", "mark", "combiningmark", "mc", "spacingmark", "me", "enclosingmark", "mn",
  "nonspacingmark", "n", "number", "nd", "decimalnumber", "digit", "nl", "letternumber", "no",
  "othernumber", "p", "punctuation", "punct", "pc", "connectorpunctuation", "pd",
  "dashpunctuation", "pe", "closepunctuation", "pf", "finalpunctuation", "pi",
  "initialpunctuation", "po", "otherpunctuation", "ps", "openpunctuation", "s", "symbol", "sc",
  "currencysymbol", "sk", "modifiersymbol", "sm", "mathsymbol", "so", "othersymbol", "z",
  "separator", "zl", "lineseparator", "zp", "paragraphseparator", "zs", "spaceseparator"]

/-- Scripts, by their codes and names. -/
def scripts : List String := [
  "adlam", "adlm", "aghb", "ahom", "anatolianhieroglyphs", "arab", "arabic", "armenian", "armi",
  "armn", "avestan", "avst", "bali", "balinese", "bamu", "bamum", "bass", "bassavah", "batak",
  "batk", "beng", "bengali", "bhaiksuki", "bhks", "bopo", "bopomofo", "brah", "brahmi", "brai",
  "braille", "bugi", "buginese", "buhd", "buhid", "cakm", "canadianaboriginal", "cans", "cari",
  "carian", "caucasianalbanian", "chakma", "cham", "cher", "cherokee", "chorasmian", "chrs",
  "common", "copt", "coptic", "cpmn", "cprt", "cuneiform", "cypriot", "cyprominoan", "cyrillic",
  "cyrl", "deseret", "deva", "devanagari", "diak", "divesakuru", "dogr", "dogra", "dsrt", "dupl",
  "duployan", "egyp", "egyptianhieroglyphs", "elba", "elbasan", "elym", "elymaic", "ethi",
  "ethiopic", "gara", "garay", "geor", "georgian", "glag", "glagolitic", "gong", "gonm", "goth",
  "gothic", "gran", "grantha", "greek", "grek", "gujarati", "gujr", "gukh", "gunjalagondi",
  "gurmukhi", "guru", "gurungkhema", "han", "hang", "hangul", "hani", "hanifirohingya", "hano",
  "hanunoo", "hatr", "hatran", "hebr", "hebrew", "hira", "hiragana", "hluw", "hmng", "hmnp",
  "hung", "imperialaramaic", "inherited", "inscriptionalpahlavi", "inscriptionalparthian", "ital",
  "java", "javanese", "kaithi", "kali", "kana", "kannada", "katakana", "kawi", "kayahli", "khar",
  "kharoshthi", "khitansmallscript", "khmer", "khmr", "khoj", "khojki", "khudawadi", "kiratrai",
  "kits", "knda", "krai", "kthi", "lana", "lao", "laoo", "latin", "latn", "lepc", "lepcha",
  "limb", "limbu", "lina", "linb", "lineara", "linearb", "lisu", "lyci", "lycian", "lydi",
  "lydian", "mahajani", "mahj", "maka", "makasar", "malayalam", "mand", "mandaic", "mani",
  "manichaean", "marc", "marchen", "masaramgondi", "medefaidrin", "medf", "meeteimayek", "mend",
  "mendekikakui", "merc", "mero", "meroiticcursive", "meroitichieroglyphs", "miao", "mlym",
  "modi", "mong", "mongolian", "mro", "mroo", "mtei", "mult", "multani", "myanmar", "mymr",
  "nabataean", "nagm", "nagmundari", "nand", "nandinagari", "narb", "nbat", "newa", "newtailue",
  "nko", "nkoo", "nshu", "nushu", "nyiakengpuachuehmong", "ogam", "ogham", "olchiki", "olck",
  "oldhungarian", "olditalic", "oldnortharabian", "oldpermic", "oldpersian", "oldsogdian",
  "oldsoutharabian", "oldturkic", "olduyghur", "olonal", "onao", "oriya", "orkh", "orya", "osage",
  "osge", "osma", "osmanya", "ougr", "pahawhhmong", "palm", "palmyrene", "pauc", "paucinhau",
  "perm", "phag", "phagspa", "phli", "phlp", "phnx", "phoenician", "plrd", "prti",
  "psalterpahlavi", "qaac", "qaai", "rejang", "rjng", "rohg", "runic", "runr", "samaritan",
  "samr", "sarb", "saur", "saurashtra", "sgnw", "sharada", "shavian", "shaw", "shrd", "sidd",
  "siddham", "signwriting", "sind", "sinh", "sinhala", "sogd", "sogdian", "sogo", "sora",
  "sorasompeng", "soyo", "soyombo", "sund", "sundanese", "sunu", "sunuwar", "sylo", "sylotinagri",
  "syrc", "syriac", "tagalog", "tagb", "tagbanwa", "taile", "taitham", "taiviet", "takr", "takri",
  "tale", "talu", "tamil", "taml", "tang", "tangsa", "tangut", "tavt", "telu", "telugu", "tfng",
  "tglg", "thaa", "thaana", "thai", "tibetan", "tibt", "tifinagh", "tirh", "tirhuta", "tnsa",
  "todhri", "todr", "toto", "tulutigalari", "tutg", "ugar", "ugaritic", "vai", "vaii", "vith",
  "vithkuqi", "wancho", "wara", "warangciti", "wcho", "xpeo", "xsux", "yezi", "yezidi", "yi",
  "yiii", "zanabazarsquare", "zanb", "zinh", "zyyy"]

/-- Versions of the standard in which characters were added. -/
def ages : List String := [
  "1.1", "2.0", "2.1", "3.0", "3.1", "3.2", "4.0", "4.1", "5.0", "5.1", "5.2", "6.0", "6.1",
  "6.2", "6.3", "7.0", "8.0", "9.0", "10.0", "11.0", "12.0", "12.1", "13.0", "14.0", "15.0",
  "15.1", "16.0", "v11", "v20", "v21", "v30", "v31", "v32", "v40", "v41", "v50", "v51", "v52",
  "v60", "v61", "v62", "v63", "v70", "v80", "v90", "v100", "v110", "v120", "v121", "v130", "v140",
  "v150", "v151", "v160"]

def graphemeBreaks : List String := [
  "cn", "control", "cr", "ex", "extend", "l", "lf", "lv", "lvt", "pp", "prepend", "ri",
  "regionalindicator", "sm", "spacingmark", "t", "v", "zwj"]

def wordBreaks : List String := [
  "aletter", "le", "cr", "doublequote", "dq", "extend", "ex", "extendnumlet", "fo", "format",
  "hebrewletter", "hl", "ka", "katakana", "lf", "mb", "midnumlet", "midletter", "ml", "midnum",
  "mn", "newline", "nl", "nu", "numeric", "ri", "regionalindicator", "singlequote", "sq",
  "wsegspace", "zwj"]

def sentenceBreaks : List String := [
  "at", "aterm", "cl", "close", "cr", "ex", "extend", "fo", "format", "le", "oletter", "lf", "lo",
  "lower", "nu", "numeric", "sc", "scontinue", "se", "sep", "sp", "st", "sterm", "up", "upper"]

/-- A name in the form in which it is compared. The name `isc` keeps its prefix. -/
def normalize (name : List Char) : String :=
  let (stripped, body) := match name with
    | i :: s :: rest =>
      if (i = 'i' || i = 'I') && (s = 's' || s = 'S') then (true, rest) else (false, name)
    | name => (false, name)
  let kept := body.filter fun c => c.toNat < 128 && c ≠ ' ' && c ≠ '_' && c ≠ '-'
  let lower := kept.map Char.toLower
  if stripped && lower = ['c'] then "isc" else String.ofList lower

/-- Whether a name alone names a class. -/
def isClass (name : List Char) : Bool :=
  let name := normalize name
  flags.contains name || categories.contains name || scripts.contains name

/-- Whether a property and a value together name a class. -/
def isValue (property value : List Char) : Bool :=
  let value := normalize value
  match normalize property with
  | "gc" | "generalcategory" => categories.contains value
  | "sc" | "script" | "scx" | "scriptextensions" => scripts.contains value
  | "age" => ages.contains value
  | "gcb" | "graphemeclusterbreak" => graphemeBreaks.contains value
  | "wb" | "wordbreak" => wordBreaks.contains value
  | "sb" | "sentencebreak" => sentenceBreaks.contains value
  | _ => false

/-- Whether what stands between braces names a class: a name, or a property and a value with an
equals sign, a colon or an inequality between them. -/
def isKnown (name : List Char) : Bool :=
  match splitAt ['!', '='] name with
  | some (property, value) => isValue property value
  | none =>
    match splitAt [':'] name with
    | some (property, value) => isValue property value
    | none =>
      match splitAt ['='] name with
      | some (property, value) => isValue property value
      | none => isClass name
where
  /-- The parts of a text before and after the first occurrence of a separator. -/
  splitAt (separator : List Char) : List Char → Option (List Char × List Char)
    | [] => none
    | c :: rest =>
      if separator.isPrefixOf (c :: rest) then some ([], (c :: rest).drop separator.length)
      else (splitAt separator rest).map fun (before, after) => (c :: before, after)

end ComposeLint.Regex.Property
