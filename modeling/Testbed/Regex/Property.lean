import Testbed.Regex.CharSet
import Testbed.Regex.Fault

/-!
# Properties of characters

The properties that a pattern can ask for, each with the letters that have it. A name may be written
in any case, with blanks, hyphens and underscores, and with `is` in front; the tables hold it without
them.
-/

namespace Testbed.Regex.Property

/-- A name as the tables hold it. -/
def normalize (name : String) : String :=
  let cs := name.toList
  let (dropped, rest) := match cs with
    | a :: b :: rest => if a.toLower = 'i' ∧ b.toLower = 's' then (true, rest) else (false, cs)
    | _ => (false, cs)
  let kept := (rest.filter fun c => c.toNat < 128 && c != ' ' && c != '_' && c != '-').map Char.toLower
  if dropped ∧ kept = ['c'] then "isc" else String.ofList kept

/-! ## Tables

A row has the names of a property and its letters. -/

/-- Properties that a character has or has not. -/
def binaryProperties : List (String × String) := [
    ("ahex asciihexdigit", "30-39 41-46 61-66"),
    ("alpha alphabetic", "41-5a 61-7a 17f 212a"),
    ("bidic bidicontrol", ""),
    ("bidim bidimirrored", "28-29 3c 3e 5b 5d 7b 7d"),
    ("cased", "41-5a 61-7a 17f 212a"),
    ("ci caseignorable", "27 2e 3a 5e 60"),
    ("cwcf changeswhencasefolded", "41-5a 17f 212a"),
    ("cwcm changeswhencasemapped", "41-5a 61-7a 17f 212a"),
    ("cwkcf changeswhennfkccasefolded", "41-5a 17f 212a"),
    ("cwl changeswhenlowercased", "41-5a 212a"),
    ("cwt changeswhentitlecased", "61-7a 17f"),
    ("cwu changeswhenuppercased", "61-7a 17f"),
    ("dash", "2d"),
    ("dep deprecated", ""),
    ("di defaultignorablecodepoint", ""),
    ("dia diacritic", "5e 60"),
    ("ebase emojimodifierbase", ""),
    ("ecomp emojicomponent", "23 2a 30-39"),
    ("emod emojimodifier", ""),
    ("emoji", "23 2a 30-39"),
    ("epres emojipresentation", ""),
    ("ext extender", ""),
    ("extpict extendedpictographic", ""),
    ("grbase graphemebase", "20-7e 17f 212a"),
    ("grext graphemeextend", ""),
    ("grlink graphemelink", ""),
    ("hex hexdigit", "30-39 41-46 61-66"),
    ("hyphen", "2d"),
    ("idc idcontinue", "30-39 41-5a 5f 61-7a 17f 212a"),
    ("ideo ideographic", ""),
    ("ids idstart", "41-5a 61-7a 17f 212a"),
    ("idsb idsbinaryoperator", ""),
    ("idst idstrinaryoperator", ""),
    ("joinc joincontrol", ""),
    ("loe logicalorderexception", ""),
    ("lower lowercase", "61-7a 17f"),
    ("math", "2b 3c-3e 5e 7c 7e"),
    ("nchar noncharactercodepoint", ""),
    ("patsyn patternsyntax", "21-2f 3a-40 5b-5e 60 7b-7e"),
    ("patws patternwhitespace", "9-d 20"),
    ("pcm prependedconcatenationmark", ""),
    ("qmark quotationmark", "22 27"),
    ("radical", ""),
    ("ri regionalindicator", ""),
    ("sd softdotted", "69-6a"),
    ("sterm sentenceterminal", "21 2e 3f"),
    ("term terminalpunctuation", "21 2c 2e 3a-3b 3f"),
    ("uideo unifiedideograph", ""),
    ("upper uppercase", "41-5a 212a"),
    ("vs variationselector", ""),
    ("wspace whitespace space", "9-d 20"),
    ("xidc xidcontinue", "30-39 41-5a 5f 61-7a 17f 212a"),
    ("xids xidstart", "41-5a 61-7a 17f 212a"),
    ("idsu idsunaryoperator", ""),
    ("mcm modifiercombiningmark", ""),
    ("idcompatmathcontinue", ""),
    ("idcompatmathstart", ""),
    ("oalpha otheralphabetic", ""),
    ("odi otherdefaultignorablecodepoint", ""),
    ("ogrext othergraphemeextend", ""),
    ("oidc otheridcontinue", ""),
    ("oids otheridstart", ""),
    ("olower otherlowercase", ""),
    ("omath othermath", "5e"),
    ("oupper otheruppercase", "")]

def generalCategories : List (String × String) := [
    ("c other", "0-1f 7f"),
    ("cc control cntrl", "0-1f 7f"),
    ("cf format", ""),
    ("cn unassigned", ""),
    ("co privateuse", ""),
    ("l letter", "41-5a 61-7a 17f 212a"),
    ("lc casedletter", "41-5a 61-7a 17f 212a"),
    ("ll lowercaseletter", "61-7a 17f"),
    ("lm modifierletter", ""),
    ("lo otherletter", ""),
    ("lt titlecaseletter", ""),
    ("lu uppercaseletter", "41-5a 212a"),
    ("m mark combiningmark", ""),
    ("mc spacingmark", ""),
    ("me enclosingmark", ""),
    ("mn nonspacingmark", ""),
    ("n number", "30-39"),
    ("nd decimalnumber digit", "30-39"),
    ("nl letternumber", ""),
    ("no othernumber", ""),
    ("p punctuation punct", "21-23 25-2a 2c-2f 3a-3b 3f-40 5b-5d 5f 7b 7d"),
    ("pc connectorpunctuation", "5f"),
    ("pd dashpunctuation", "2d"),
    ("pe closepunctuation", "29 5d 7d"),
    ("pf finalpunctuation", ""),
    ("pi initialpunctuation", ""),
    ("po otherpunctuation", "21-23 25-27 2a 2c 2e-2f 3a-3b 3f-40 5c"),
    ("ps openpunctuation", "28 5b 7b"),
    ("s symbol", "24 2b 3c-3e 5e 60 7c 7e"),
    ("sc currencysymbol", "24"),
    ("sk modifiersymbol", "5e 60"),
    ("sm mathsymbol", "2b 3c-3e 7c 7e"),
    ("so othersymbol", ""),
    ("z separator", "20"),
    ("zl lineseparator", ""),
    ("zp paragraphseparator", ""),
    ("zs spaceseparator", "20")]

def scripts : List (String × String) := [
    ("adlm adlam", ""),
    ("aghb caucasianalbanian", ""),
    ("ahom", ""),
    ("arab arabic", ""),
    ("armi imperialaramaic", ""),
    ("armn armenian", ""),
    ("avst avestan", ""),
    ("bali balinese", ""),
    ("bamu bamum", ""),
    ("bass bassavah", ""),
    ("batk batak", ""),
    ("beng bengali", ""),
    ("bhks bhaiksuki", ""),
    ("bopo bopomofo", ""),
    ("brah brahmi", ""),
    ("brai braille", ""),
    ("bugi buginese", ""),
    ("buhd buhid", ""),
    ("cakm chakma", ""),
    ("cans canadianaboriginal", ""),
    ("cari carian", ""),
    ("cham", ""),
    ("cher cherokee", ""),
    ("chrs chorasmian", ""),
    ("copt coptic qaac", ""),
    ("cpmn cyprominoan", ""),
    ("cprt cypriot", ""),
    ("cyrl cyrillic", ""),
    ("deva devanagari", ""),
    ("diak divesakuru", ""),
    ("dogr dogra", ""),
    ("dsrt deseret", ""),
    ("dupl duployan", ""),
    ("egyp egyptianhieroglyphs", ""),
    ("elba elbasan", ""),
    ("elym elymaic", ""),
    ("ethi ethiopic", ""),
    ("geor georgian", ""),
    ("glag glagolitic", ""),
    ("gong gunjalagondi", ""),
    ("gonm masaramgondi", ""),
    ("goth gothic", ""),
    ("gran grantha", ""),
    ("grek greek", ""),
    ("gujr gujarati", ""),
    ("guru gurmukhi", ""),
    ("hang hangul", ""),
    ("hani han", ""),
    ("hano hanunoo", ""),
    ("hatr hatran", ""),
    ("hebr hebrew", ""),
    ("hira hiragana", ""),
    ("hluw anatolianhieroglyphs", ""),
    ("hmng pahawhhmong", ""),
    ("hmnp nyiakengpuachuehmong", ""),
    ("hung oldhungarian", ""),
    ("ital olditalic", ""),
    ("java javanese", ""),
    ("kali kayahli", ""),
    ("kana katakana", ""),
    ("kawi", ""),
    ("khar kharoshthi", ""),
    ("khmr khmer", ""),
    ("khoj khojki", ""),
    ("kits khitansmallscript", ""),
    ("knda kannada", ""),
    ("kthi kaithi", ""),
    ("lana taitham", ""),
    ("laoo lao", ""),
    ("latn latin", "41-5a 61-7a 17f 212a"),
    ("lepc lepcha", ""),
    ("limb limbu", ""),
    ("lina lineara", ""),
    ("linb linearb", ""),
    ("lisu", ""),
    ("lyci lycian", ""),
    ("lydi lydian", ""),
    ("mahj mahajani", ""),
    ("maka makasar", ""),
    ("mand mandaic", ""),
    ("mani manichaean", ""),
    ("marc marchen", ""),
    ("medf medefaidrin", ""),
    ("mend mendekikakui", ""),
    ("merc meroiticcursive", ""),
    ("mero meroitichieroglyphs", ""),
    ("mlym malayalam", ""),
    ("modi", ""),
    ("mong mongolian", ""),
    ("mroo mro", ""),
    ("mtei meeteimayek", ""),
    ("mult multani", ""),
    ("mymr myanmar", ""),
    ("nagm nagmundari", ""),
    ("nand nandinagari", ""),
    ("narb oldnortharabian", ""),
    ("nbat nabataean", ""),
    ("newa", ""),
    ("nkoo nko", ""),
    ("nshu nushu", ""),
    ("ogam ogham", ""),
    ("olck olchiki", ""),
    ("orkh oldturkic", ""),
    ("orya oriya", ""),
    ("osge osage", ""),
    ("osma osmanya", ""),
    ("ougr olduyghur", ""),
    ("palm palmyrene", ""),
    ("pauc paucinhau", ""),
    ("perm oldpermic", ""),
    ("phag phagspa", ""),
    ("phli inscriptionalpahlavi", ""),
    ("phlp psalterpahlavi", ""),
    ("phnx phoenician", ""),
    ("plrd miao", ""),
    ("prti inscriptionalparthian", ""),
    ("rjng rejang", ""),
    ("rohg hanifirohingya", ""),
    ("runr runic", ""),
    ("samr samaritan", ""),
    ("sarb oldsoutharabian", ""),
    ("saur saurashtra", ""),
    ("sgnw signwriting", ""),
    ("shaw shavian", ""),
    ("shrd sharada", ""),
    ("sidd siddham", ""),
    ("sind khudawadi", ""),
    ("sinh sinhala", ""),
    ("sogd sogdian", ""),
    ("sogo oldsogdian", ""),
    ("sora sorasompeng", ""),
    ("soyo soyombo", ""),
    ("sund sundanese", ""),
    ("sylo sylotinagri", ""),
    ("syrc syriac", ""),
    ("tagb tagbanwa", ""),
    ("takr takri", ""),
    ("tale taile", ""),
    ("talu newtailue", ""),
    ("taml tamil", ""),
    ("tang tangut", ""),
    ("tavt taiviet", ""),
    ("telu telugu", ""),
    ("tfng tifinagh", ""),
    ("tglg tagalog", ""),
    ("thaa thaana", ""),
    ("thai", ""),
    ("tibt tibetan", ""),
    ("tirh tirhuta", ""),
    ("tnsa tangsa", ""),
    ("toto", ""),
    ("ugar ugaritic", ""),
    ("vaii vai", ""),
    ("vith vithkuqi", ""),
    ("wara warangciti", ""),
    ("wcho wancho", ""),
    ("xpeo oldpersian", ""),
    ("xsux cuneiform", ""),
    ("yezi yezidi", ""),
    ("yiii yi", ""),
    ("zanb zanabazarsquare", ""),
    ("zinh inherited qaai", ""),
    ("zyyy common", "0-40 5b-60 7b-7f"),
    ("gara garay", ""),
    ("gukh gurungkhema", ""),
    ("krai kiratrai", ""),
    ("onao olonal", ""),
    ("sunu sunuwar", ""),
    ("todr todhri", ""),
    ("tutg tulutigalari", ""),
    ("berf beriaerfe", ""),
    ("sidt sidetic", ""),
    ("tayo taiyo", ""),
    ("tols tolongsiki", "")]

/-- Values of Grapheme_Cluster_Break. -/
def graphemeBreaks : List (String × String) := [
    ("cn control", "0-9 b-c e-1f 7f"),
    ("cr", "d"),
    ("ex extend", ""),
    ("l", ""),
    ("lf", "a"),
    ("lv", ""),
    ("lvt", ""),
    ("pp prepend", ""),
    ("ri regionalindicator", ""),
    ("sm spacingmark", ""),
    ("t", ""),
    ("v", ""),
    ("zwj", "")]

/-- Values of Word_Break. -/
def wordBreaks : List (String × String) := [
    ("cr", "d"),
    ("dq doublequote", "22"),
    ("ex extendnumlet", "5f"),
    ("extend", ""),
    ("fo format", ""),
    ("hl hebrewletter", ""),
    ("ka katakana", ""),
    ("le aletter", "41-5a 61-7a 17f 212a"),
    ("lf", "a"),
    ("mb midnumlet", "2e"),
    ("ml midletter", "3a"),
    ("mn midnum", "2c 3b"),
    ("nl newline", "b-c"),
    ("nu numeric", "30-39"),
    ("ri regionalindicator", ""),
    ("sq singlequote", "27"),
    ("wsegspace", "20"),
    ("zwj", "")]

/-- Values of Sentence_Break. -/
def sentenceBreaks : List (String × String) := [
    ("at aterm", "2e"),
    ("cl close", "22 27-29 5b 5d 7b 7d"),
    ("cr", "d"),
    ("ex extend", ""),
    ("fo format", ""),
    ("le oletter", ""),
    ("lf", "a"),
    ("lo lower", "61-7a 17f"),
    ("nu numeric", "30-39"),
    ("sc scontinue", "2c-2d 3a"),
    ("se sep", ""),
    ("sp", "9 b-c 20"),
    ("st sterm", "21 3f"),
    ("up upper", "41-5a 212a")]

/-- The versions in which characters were assigned. -/
def ages : List String := [
    "1.1", "2.0", "2.1", "3.0", "3.1", "3.2", "4.0", "4.1", "5.0", "5.1", "5.2", "6.0", "6.1",
    "6.2", "6.3", "7.0", "8.0", "9.0", "10.0", "11.0", "12.0", "12.1", "13.0", "14.0",
    "15.0", "15.1", "16.0", "17.0"]

/-- Properties whose values cannot be asked for, by their names. -/
def otherProperties : List String := [
    "age", "script", "sc", "scriptextensions", "scx", "generalcategory", "gc", "graphemeclusterbreak",
    "gcb", "wordbreak", "wb", "sentencebreak", "sb", "bidiclass", "bc", "bidimirroringglyph", "bmg",
    "bidipairedbracket", "bpb", "bidipairedbrackettype", "bpt", "block", "blk",
    "canonicalcombiningclass", "ccc", "casefolding", "cf", "compositionexclusion", "ce",
    "fullcompositionexclusion", "compex", "decompositionmapping", "dm", "decompositiontype", "dt",
    "eastasianwidth", "ea", "equivalentunifiedideograph", "equideo", "expandsonnfc", "xonfc",
    "expandsonnfd", "xonfd", "expandsonnfkc", "xonfkc", "expandsonnfkd", "xonfkd", "fcnfkcclosure",
    "fcnfkc", "hangulsyllabletype", "hst", "indicconjunctbreak", "incb",
    "indicpositionalcategory", "inpc", "indicsyllabiccategory", "insc", "isc", "jamoshortname", "jsn",
    "joininggroup", "jg", "joiningtype", "jt", "linebreak", "lb", "lowercasemapping", "lc", "name",
    "na", "namealias", "nfcquickcheck", "nfcqc", "nfdquickcheck", "nfdqc", "nfkccasefold", "nfkccf",
    "nfkcsimplecasefold", "nfkcscf", "nfkcquickcheck", "nfkcqc", "nfkdquickcheck", "nfkdqc",
    "numerictype", "nt", "numericvalue", "nv", "simplecasefolding", "scf", "sfc",
    "simplelowercasemapping", "slc", "simpletitlecasemapping", "stc", "simpleuppercasemapping", "suc",
    "titlecasemapping", "tc", "unicode1name", "na1", "unicoderadicalstroke", "urs",
    "uppercasemapping", "uc", "verticalorientation", "vo"]

/-! ## Looking up -/

/-- The row of a name. -/
def row? (table : List (String × String)) (name : String) : Option CharSet :=
  (table.find? fun (names, _) => (names.splitOn " ").contains name).map fun (_, members) =>
    .ofText members

def any : CharSet := CharSet.none.compl

def category? (name : String) : Option (Except Cause CharSet) :=
  match name with
  | "any" | "assigned" => some (.ok any)
  | "ascii" => some (.ok (.ascii 0 127))
  | "cs" | "surrogate" => some (.error .propertyValueNotFound)
  | _ => (row? generalCategories name).map .ok

def script? (name : String) : Option (Except Cause CharSet) :=
  match name with
  | "hrkt" | "katakanaorhiragana" | "zzzz" | "unknown" => some (.error .propertyValueNotFound)
  | _ => (row? scripts name).map .ok

/-- The characters assigned up to a version: all ASCII characters were in the first. -/
def age? (name : String) : Option (Except Cause CharSet) :=
  if ages.contains name || ages.any (fun a => "v" ++ String.ofList (a.toList.filter (· != '.')) == name)
  then some (.ok any) else none

/-- What a name asks for. -/
def named (name : String) : Except Cause CharSet :=
  let n := normalize name
  let ambiguous := n = "cf" ∨ n = "sc" ∨ n = "lc"
  match if ambiguous then none else row? binaryProperties n with
  | some s => .ok s
  | none =>
    if ¬ ambiguous ∧ otherProperties.contains n then .error .propertyNotFound
    else ((category? n).or (script? n)).getD (.error .propertyNotFound)

/-- What a property and its value ask for. -/
def valued (name value : String) : Except Cause CharSet :=
  let v := normalize value
  let found := match normalize name with
    | "generalcategory" | "gc" => category? v
    | "script" | "sc" | "scriptextensions" | "scx" => script? v
    | "age" => age? v
    | "graphemeclusterbreak" | "gcb" => (row? graphemeBreaks v).map .ok
    | "wordbreak" | "wb" => (row? wordBreaks v).map .ok
    | "sentencebreak" | "sb" => (row? sentenceBreaks v).map .ok
    | other =>
      if otherProperties.contains other || (row? binaryProperties other).isSome then none
      else some (.error .propertyNotFound)
  found.getD (.error .propertyValueNotFound)

end Testbed.Regex.Property
