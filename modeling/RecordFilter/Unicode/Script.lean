import RecordFilter.CharSet.Basic

namespace RecordFilter.Unicode.Script

/-- The code of each script and its other names, lowercase without separators. -/
def names : List (String × List String) := [
  ("adlm", ["adlam"]), ("ahom", []), ("hluw", ["anatolianhieroglyphs"]), ("arab", ["arabic"]),
  ("armn", ["armenian"]), ("avst", ["avestan"]), ("bali", ["balinese"]), ("bamu", ["bamum"]),
  ("bass", ["bassavah"]), ("batk", ["batak"]), ("beng", ["bengali"]), ("bhks", ["bhaiksuki"]),
  ("bopo", ["bopomofo"]), ("brah", ["brahmi"]), ("brai", ["braille"]), ("bugi", ["buginese"]),
  ("buhd", ["buhid"]), ("cans", ["canadianaboriginal"]), ("cari", ["carian"]),
  ("aghb", ["caucasianalbanian"]), ("cakm", ["chakma"]), ("cham", []), ("cher", ["cherokee"]),
  ("chrs", ["chorasmian"]), ("zyyy", ["common"]), ("copt", ["coptic", "qaac"]),
  ("xsux", ["cuneiform"]), ("cprt", ["cypriot"]), ("cpmn", ["cyprominoan"]), ("cyrl", ["cyrillic"]),
  ("dsrt", ["deseret"]), ("deva", ["devanagari"]), ("diak", ["divesakuru"]), ("dogr", ["dogra"]),
  ("dupl", ["duployan"]), ("egyp", ["egyptianhieroglyphs"]), ("elba", ["elbasan"]),
  ("elym", ["elymaic"]), ("ethi", ["ethiopic"]), ("gara", ["garay"]), ("geor", ["georgian"]),
  ("glag", ["glagolitic"]), ("goth", ["gothic"]), ("gran", ["grantha"]), ("grek", ["greek"]),
  ("gujr", ["gujarati"]), ("gong", ["gunjalagondi"]), ("guru", ["gurmukhi"]),
  ("gukh", ["gurungkhema"]), ("hani", ["han"]), ("hang", ["hangul"]), ("rohg", ["hanifirohingya"]),
  ("hano", ["hanunoo"]), ("hatr", ["hatran"]), ("hebr", ["hebrew"]), ("hira", ["hiragana"]),
  ("armi", ["imperialaramaic"]), ("zinh", ["inherited", "qaai"]),
  ("phli", ["inscriptionalpahlavi"]), ("prti", ["inscriptionalparthian"]), ("java", ["javanese"]),
  ("kthi", ["kaithi"]), ("knda", ["kannada"]), ("kana", ["katakana"]), ("kawi", []),
  ("kali", ["kayahli"]), ("khar", ["kharoshthi"]), ("kits", ["khitansmallscript"]),
  ("khmr", ["khmer"]), ("khoj", ["khojki"]), ("sind", ["khudawadi"]), ("krai", ["kiratrai"]),
  ("laoo", ["lao"]), ("latn", ["latin"]), ("lepc", ["lepcha"]), ("limb", ["limbu"]),
  ("lina", ["lineara"]), ("linb", ["linearb"]), ("lisu", []), ("lyci", ["lycian"]),
  ("lydi", ["lydian"]), ("mahj", ["mahajani"]), ("maka", ["makasar"]), ("mlym", ["malayalam"]),
  ("mand", ["mandaic"]), ("mani", ["manichaean"]), ("marc", ["marchen"]),
  ("gonm", ["masaramgondi"]), ("medf", ["medefaidrin"]), ("mtei", ["meeteimayek"]),
  ("mend", ["mendekikakui"]), ("merc", ["meroiticcursive"]), ("mero", ["meroitichieroglyphs"]),
  ("plrd", ["miao"]), ("modi", []), ("mong", ["mongolian"]), ("mroo", ["mro"]),
  ("mult", ["multani"]), ("mymr", ["myanmar"]), ("nbat", ["nabataean"]), ("nagm", ["nagmundari"]),
  ("nand", ["nandinagari"]), ("talu", ["newtailue"]), ("newa", []), ("nkoo", ["nko"]),
  ("nshu", ["nushu"]), ("hmnp", ["nyiakengpuachuehmong"]), ("ogam", ["ogham"]),
  ("olck", ["olchiki"]), ("onao", ["olonal"]), ("hung", ["oldhungarian"]), ("ital", ["olditalic"]),
  ("narb", ["oldnortharabian"]), ("perm", ["oldpermic"]), ("xpeo", ["oldpersian"]),
  ("sogo", ["oldsogdian"]), ("sarb", ["oldsoutharabian"]), ("orkh", ["oldturkic"]),
  ("ougr", ["olduyghur"]), ("orya", ["oriya"]), ("osge", ["osage"]), ("osma", ["osmanya"]),
  ("hmng", ["pahawhhmong"]), ("palm", ["palmyrene"]), ("pauc", ["paucinhau"]),
  ("phag", ["phagspa"]), ("phnx", ["phoenician"]), ("phlp", ["psalterpahlavi"]),
  ("rjng", ["rejang"]), ("runr", ["runic"]), ("samr", ["samaritan"]), ("saur", ["saurashtra"]),
  ("shrd", ["sharada"]), ("shaw", ["shavian"]), ("sidd", ["siddham"]), ("sgnw", ["signwriting"]),
  ("sinh", ["sinhala"]), ("sogd", ["sogdian"]), ("sora", ["sorasompeng"]), ("soyo", ["soyombo"]),
  ("sund", ["sundanese"]), ("sunu", ["sunuwar"]), ("sylo", ["sylotinagri"]), ("syrc", ["syriac"]),
  ("tglg", ["tagalog"]), ("tagb", ["tagbanwa"]), ("tale", ["taile"]), ("lana", ["taitham"]),
  ("tavt", ["taiviet"]), ("takr", ["takri"]), ("taml", ["tamil"]), ("tnsa", ["tangsa"]),
  ("tang", ["tangut"]), ("telu", ["telugu"]), ("thaa", ["thaana"]), ("thai", []),
  ("tibt", ["tibetan"]), ("tfng", ["tifinagh"]), ("tirh", ["tirhuta"]), ("todr", ["todhri"]),
  ("toto", []), ("tutg", ["tulutigalari"]), ("ugar", ["ugaritic"]), ("vaii", ["vai"]),
  ("vith", ["vithkuqi"]), ("wcho", ["wancho"]), ("wara", ["warangciti"]), ("yezi", ["yezidi"]),
  ("yiii", ["yi"]), ("zanb", ["zanabazarsquare"])]

def named? (name : String) : Option String :=
  (names.find? fun row => row.1 = name || row.2.contains name).map (·.1)

private def scriptRows0 : List (Nat × String) := [
  (0x0, "zyyy"), (0x41, "latn"), (0x5B, "zyyy"), (0x61, "latn"), (0x7B, "zyyy"), (0xAA, "latn"),
  (0xAB, "zyyy"), (0xBA, "latn"), (0xBB, "zyyy"), (0xC0, "latn"), (0xD7, "zyyy"), (0xD8, "latn"),
  (0xF7, "zyyy"), (0xF8, "latn"), (0x2B9, "zyyy"), (0x2E0, "latn"), (0x2E5, "zyyy"),
  (0x2EA, "bopo"), (0x2EC, "zyyy"), (0x300, "zinh"), (0x370, "grek"), (0x374, "zyyy"),
  (0x375, "grek"), (0x378, "zzzz"), (0x37A, "grek"), (0x37E, "zyyy"), (0x37F, "grek"),
  (0x380, "zzzz"), (0x384, "grek"), (0x385, "zyyy"), (0x386, "grek"), (0x387, "zyyy"),
  (0x388, "grek"), (0x38B, "zzzz"), (0x38C, "grek"), (0x38D, "zzzz"), (0x38E, "grek"),
  (0x3A2, "zzzz"), (0x3A3, "grek"), (0x3E2, "copt"), (0x3F0, "grek"), (0x400, "cyrl"),
  (0x485, "zinh"), (0x487, "cyrl"), (0x530, "zzzz"), (0x531, "armn"), (0x557, "zzzz"),
  (0x559, "armn"), (0x58B, "zzzz"), (0x58D, "armn"), (0x590, "zzzz"), (0x591, "hebr"),
  (0x5C8, "zzzz"), (0x5D0, "hebr"), (0x5EB, "zzzz"), (0x5EF, "hebr"), (0x5F5, "zzzz"),
  (0x600, "arab"), (0x605, "zyyy"), (0x606, "arab"), (0x60C, "zyyy"), (0x60D, "arab"),
  (0x61B, "zyyy"), (0x61C, "arab"), (0x61F, "zyyy"), (0x620, "arab"), (0x640, "zyyy"),
  (0x641, "arab"), (0x64B, "zinh"), (0x656, "arab"), (0x670, "zinh"), (0x671, "arab"),
  (0x6DD, "zyyy"), (0x6DE, "arab"), (0x700, "syrc"), (0x70E, "zzzz"), (0x70F, "syrc"),
  (0x74B, "zzzz"), (0x74D, "syrc"), (0x750, "arab"), (0x780, "thaa"), (0x7B2, "zzzz"),
  (0x7C0, "nkoo"), (0x7FB, "zzzz"), (0x7FD, "nkoo"), (0x800, "samr"), (0x82E, "zzzz"),
  (0x830, "samr"), (0x83F, "zzzz"), (0x840, "mand"), (0x85C, "zzzz"), (0x85E, "mand"),
  (0x85F, "zzzz"), (0x860, "syrc"), (0x86B, "zzzz"), (0x870, "arab"), (0x88F, "zzzz"),
  (0x890, "arab"), (0x892, "zzzz"), (0x897, "arab"), (0x8E2, "zyyy"), (0x8E3, "arab"),
  (0x900, "deva"), (0x951, "zinh"), (0x955, "deva"), (0x964, "zyyy"), (0x966, "deva"),
  (0x980, "beng"), (0x984, "zzzz"), (0x985, "beng"), (0x98D, "zzzz"), (0x98F, "beng"),
  (0x991, "zzzz"), (0x993, "beng"), (0x9A9, "zzzz"), (0x9AA, "beng"), (0x9B1, "zzzz"),
  (0x9B2, "beng"), (0x9B3, "zzzz"), (0x9B6, "beng"), (0x9BA, "zzzz"), (0x9BC, "beng"),
  (0x9C5, "zzzz"), (0x9C7, "beng"), (0x9C9, "zzzz"), (0x9CB, "beng"), (0x9CF, "zzzz"),
  (0x9D7, "beng"), (0x9D8, "zzzz"), (0x9DC, "beng"), (0x9DE, "zzzz"), (0x9DF, "beng"),
  (0x9E4, "zzzz"), (0x9E6, "beng"), (0x9FF, "zzzz"), (0xA01, "guru"), (0xA04, "zzzz"),
  (0xA05, "guru"), (0xA0B, "zzzz"), (0xA0F, "guru"), (0xA11, "zzzz"), (0xA13, "guru"),
  (0xA29, "zzzz"), (0xA2A, "guru"), (0xA31, "zzzz"), (0xA32, "guru"), (0xA34, "zzzz"),
  (0xA35, "guru"), (0xA37, "zzzz"), (0xA38, "guru"), (0xA3A, "zzzz"), (0xA3C, "guru"),
  (0xA3D, "zzzz"), (0xA3E, "guru"), (0xA43, "zzzz"), (0xA47, "guru"), (0xA49, "zzzz"),
  (0xA4B, "guru"), (0xA4E, "zzzz"), (0xA51, "guru"), (0xA52, "zzzz"), (0xA59, "guru"),
  (0xA5D, "zzzz"), (0xA5E, "guru"), (0xA5F, "zzzz"), (0xA66, "guru"), (0xA77, "zzzz"),
  (0xA81, "gujr"), (0xA84, "zzzz"), (0xA85, "gujr")]

private def scriptRows1 : List (Nat × String) := [
  (0xA8E, "zzzz"), (0xA8F, "gujr"), (0xA92, "zzzz"), (0xA93, "gujr"), (0xAA9, "zzzz"),
  (0xAAA, "gujr"), (0xAB1, "zzzz"), (0xAB2, "gujr"), (0xAB4, "zzzz"), (0xAB5, "gujr"),
  (0xABA, "zzzz"), (0xABC, "gujr"), (0xAC6, "zzzz"), (0xAC7, "gujr"), (0xACA, "zzzz"),
  (0xACB, "gujr"), (0xACE, "zzzz"), (0xAD0, "gujr"), (0xAD1, "zzzz"), (0xAE0, "gujr"),
  (0xAE4, "zzzz"), (0xAE6, "gujr"), (0xAF2, "zzzz"), (0xAF9, "gujr"), (0xB00, "zzzz"),
  (0xB01, "orya"), (0xB04, "zzzz"), (0xB05, "orya"), (0xB0D, "zzzz"), (0xB0F, "orya"),
  (0xB11, "zzzz"), (0xB13, "orya"), (0xB29, "zzzz"), (0xB2A, "orya"), (0xB31, "zzzz"),
  (0xB32, "orya"), (0xB34, "zzzz"), (0xB35, "orya"), (0xB3A, "zzzz"), (0xB3C, "orya"),
  (0xB45, "zzzz"), (0xB47, "orya"), (0xB49, "zzzz"), (0xB4B, "orya"), (0xB4E, "zzzz"),
  (0xB55, "orya"), (0xB58, "zzzz"), (0xB5C, "orya"), (0xB5E, "zzzz"), (0xB5F, "orya"),
  (0xB64, "zzzz"), (0xB66, "orya"), (0xB78, "zzzz"), (0xB82, "taml"), (0xB84, "zzzz"),
  (0xB85, "taml"), (0xB8B, "zzzz"), (0xB8E, "taml"), (0xB91, "zzzz"), (0xB92, "taml"),
  (0xB96, "zzzz"), (0xB99, "taml"), (0xB9B, "zzzz"), (0xB9C, "taml"), (0xB9D, "zzzz"),
  (0xB9E, "taml"), (0xBA0, "zzzz"), (0xBA3, "taml"), (0xBA5, "zzzz"), (0xBA8, "taml"),
  (0xBAB, "zzzz"), (0xBAE, "taml"), (0xBBA, "zzzz"), (0xBBE, "taml"), (0xBC3, "zzzz"),
  (0xBC6, "taml"), (0xBC9, "zzzz"), (0xBCA, "taml"), (0xBCE, "zzzz"), (0xBD0, "taml"),
  (0xBD1, "zzzz"), (0xBD7, "taml"), (0xBD8, "zzzz"), (0xBE6, "taml"), (0xBFB, "zzzz"),
  (0xC00, "telu"), (0xC0D, "zzzz"), (0xC0E, "telu"), (0xC11, "zzzz"), (0xC12, "telu"),
  (0xC29, "zzzz"), (0xC2A, "telu"), (0xC3A, "zzzz"), (0xC3C, "telu"), (0xC45, "zzzz"),
  (0xC46, "telu"), (0xC49, "zzzz"), (0xC4A, "telu"), (0xC4E, "zzzz"), (0xC55, "telu"),
  (0xC57, "zzzz"), (0xC58, "telu"), (0xC5B, "zzzz"), (0xC5D, "telu"), (0xC5E, "zzzz"),
  (0xC60, "telu"), (0xC64, "zzzz"), (0xC66, "telu"), (0xC70, "zzzz"), (0xC77, "telu"),
  (0xC80, "knda"), (0xC8D, "zzzz"), (0xC8E, "knda"), (0xC91, "zzzz"), (0xC92, "knda"),
  (0xCA9, "zzzz"), (0xCAA, "knda"), (0xCB4, "zzzz"), (0xCB5, "knda"), (0xCBA, "zzzz"),
  (0xCBC, "knda"), (0xCC5, "zzzz"), (0xCC6, "knda"), (0xCC9, "zzzz"), (0xCCA, "knda"),
  (0xCCE, "zzzz"), (0xCD5, "knda"), (0xCD7, "zzzz"), (0xCDD, "knda"), (0xCDF, "zzzz"),
  (0xCE0, "knda"), (0xCE4, "zzzz"), (0xCE6, "knda"), (0xCF0, "zzzz"), (0xCF1, "knda"),
  (0xCF4, "zzzz"), (0xD00, "mlym"), (0xD0D, "zzzz"), (0xD0E, "mlym"), (0xD11, "zzzz"),
  (0xD12, "mlym"), (0xD45, "zzzz"), (0xD46, "mlym"), (0xD49, "zzzz"), (0xD4A, "mlym"),
  (0xD50, "zzzz"), (0xD54, "mlym"), (0xD64, "zzzz"), (0xD66, "mlym"), (0xD80, "zzzz"),
  (0xD81, "sinh"), (0xD84, "zzzz"), (0xD85, "sinh"), (0xD97, "zzzz"), (0xD9A, "sinh"),
  (0xDB2, "zzzz"), (0xDB3, "sinh"), (0xDBC, "zzzz"), (0xDBD, "sinh"), (0xDBE, "zzzz"),
  (0xDC0, "sinh"), (0xDC7, "zzzz"), (0xDCA, "sinh"), (0xDCB, "zzzz"), (0xDCF, "sinh"),
  (0xDD5, "zzzz"), (0xDD6, "sinh"), (0xDD7, "zzzz"), (0xDD8, "sinh"), (0xDE0, "zzzz")]

private def scriptRows2 : List (Nat × String) := [
  (0xDE6, "sinh"), (0xDF0, "zzzz"), (0xDF2, "sinh"), (0xDF5, "zzzz"), (0xE01, "thai"),
  (0xE3B, "zzzz"), (0xE3F, "zyyy"), (0xE40, "thai"), (0xE5C, "zzzz"), (0xE81, "laoo"),
  (0xE83, "zzzz"), (0xE84, "laoo"), (0xE85, "zzzz"), (0xE86, "laoo"), (0xE8B, "zzzz"),
  (0xE8C, "laoo"), (0xEA4, "zzzz"), (0xEA5, "laoo"), (0xEA6, "zzzz"), (0xEA7, "laoo"),
  (0xEBE, "zzzz"), (0xEC0, "laoo"), (0xEC5, "zzzz"), (0xEC6, "laoo"), (0xEC7, "zzzz"),
  (0xEC8, "laoo"), (0xECF, "zzzz"), (0xED0, "laoo"), (0xEDA, "zzzz"), (0xEDC, "laoo"),
  (0xEE0, "zzzz"), (0xF00, "tibt"), (0xF48, "zzzz"), (0xF49, "tibt"), (0xF6D, "zzzz"),
  (0xF71, "tibt"), (0xF98, "zzzz"), (0xF99, "tibt"), (0xFBD, "zzzz"), (0xFBE, "tibt"),
  (0xFCD, "zzzz"), (0xFCE, "tibt"), (0xFD5, "zyyy"), (0xFD9, "tibt"), (0xFDB, "zzzz"),
  (0x1000, "mymr"), (0x10A0, "geor"), (0x10C6, "zzzz"), (0x10C7, "geor"), (0x10C8, "zzzz"),
  (0x10CD, "geor"), (0x10CE, "zzzz"), (0x10D0, "geor"), (0x10FB, "zyyy"), (0x10FC, "geor"),
  (0x1100, "hang"), (0x1200, "ethi"), (0x1249, "zzzz"), (0x124A, "ethi"), (0x124E, "zzzz"),
  (0x1250, "ethi"), (0x1257, "zzzz"), (0x1258, "ethi"), (0x1259, "zzzz"), (0x125A, "ethi"),
  (0x125E, "zzzz"), (0x1260, "ethi"), (0x1289, "zzzz"), (0x128A, "ethi"), (0x128E, "zzzz"),
  (0x1290, "ethi"), (0x12B1, "zzzz"), (0x12B2, "ethi"), (0x12B6, "zzzz"), (0x12B8, "ethi"),
  (0x12BF, "zzzz"), (0x12C0, "ethi"), (0x12C1, "zzzz"), (0x12C2, "ethi"), (0x12C6, "zzzz"),
  (0x12C8, "ethi"), (0x12D7, "zzzz"), (0x12D8, "ethi"), (0x1311, "zzzz"), (0x1312, "ethi"),
  (0x1316, "zzzz"), (0x1318, "ethi"), (0x135B, "zzzz"), (0x135D, "ethi"), (0x137D, "zzzz"),
  (0x1380, "ethi"), (0x139A, "zzzz"), (0x13A0, "cher"), (0x13F6, "zzzz"), (0x13F8, "cher"),
  (0x13FE, "zzzz"), (0x1400, "cans"), (0x1680, "ogam"), (0x169D, "zzzz"), (0x16A0, "runr"),
  (0x16EB, "zyyy"), (0x16EE, "runr"), (0x16F9, "zzzz"), (0x1700, "tglg"), (0x1716, "zzzz"),
  (0x171F, "tglg"), (0x1720, "hano"), (0x1735, "zyyy"), (0x1737, "zzzz"), (0x1740, "buhd"),
  (0x1754, "zzzz"), (0x1760, "tagb"), (0x176D, "zzzz"), (0x176E, "tagb"), (0x1771, "zzzz"),
  (0x1772, "tagb"), (0x1774, "zzzz"), (0x1780, "khmr"), (0x17DE, "zzzz"), (0x17E0, "khmr"),
  (0x17EA, "zzzz"), (0x17F0, "khmr"), (0x17FA, "zzzz"), (0x1800, "mong"), (0x1802, "zyyy"),
  (0x1804, "mong"), (0x1805, "zyyy"), (0x1806, "mong"), (0x181A, "zzzz"), (0x1820, "mong"),
  (0x1879, "zzzz"), (0x1880, "mong"), (0x18AB, "zzzz"), (0x18B0, "cans"), (0x18F6, "zzzz"),
  (0x1900, "limb"), (0x191F, "zzzz"), (0x1920, "limb"), (0x192C, "zzzz"), (0x1930, "limb"),
  (0x193C, "zzzz"), (0x1940, "limb"), (0x1941, "zzzz"), (0x1944, "limb"), (0x1950, "tale"),
  (0x196E, "zzzz"), (0x1970, "tale"), (0x1975, "zzzz"), (0x1980, "talu"), (0x19AC, "zzzz"),
  (0x19B0, "talu"), (0x19CA, "zzzz"), (0x19D0, "talu"), (0x19DB, "zzzz"), (0x19DE, "talu"),
  (0x19E0, "khmr"), (0x1A00, "bugi"), (0x1A1C, "zzzz"), (0x1A1E, "bugi"), (0x1A20, "lana"),
  (0x1A5F, "zzzz"), (0x1A60, "lana"), (0x1A7D, "zzzz"), (0x1A7F, "lana"), (0x1A8A, "zzzz"),
  (0x1A90, "lana"), (0x1A9A, "zzzz"), (0x1AA0, "lana"), (0x1AAE, "zzzz"), (0x1AB0, "zinh")]

private def scriptRows3 : List (Nat × String) := [
  (0x1ACF, "zzzz"), (0x1B00, "bali"), (0x1B4D, "zzzz"), (0x1B4E, "bali"), (0x1B80, "sund"),
  (0x1BC0, "batk"), (0x1BF4, "zzzz"), (0x1BFC, "batk"), (0x1C00, "lepc"), (0x1C38, "zzzz"),
  (0x1C3B, "lepc"), (0x1C4A, "zzzz"), (0x1C4D, "lepc"), (0x1C50, "olck"), (0x1C80, "cyrl"),
  (0x1C8B, "zzzz"), (0x1C90, "geor"), (0x1CBB, "zzzz"), (0x1CBD, "geor"), (0x1CC0, "sund"),
  (0x1CC8, "zzzz"), (0x1CD0, "zinh"), (0x1CD3, "zyyy"), (0x1CD4, "zinh"), (0x1CE1, "zyyy"),
  (0x1CE2, "zinh"), (0x1CE9, "zyyy"), (0x1CED, "zinh"), (0x1CEE, "zyyy"), (0x1CF4, "zinh"),
  (0x1CF5, "zyyy"), (0x1CF8, "zinh"), (0x1CFA, "zyyy"), (0x1CFB, "zzzz"), (0x1D00, "latn"),
  (0x1D26, "grek"), (0x1D2B, "cyrl"), (0x1D2C, "latn"), (0x1D5D, "grek"), (0x1D62, "latn"),
  (0x1D66, "grek"), (0x1D6B, "latn"), (0x1D78, "cyrl"), (0x1D79, "latn"), (0x1DBF, "grek"),
  (0x1DC0, "zinh"), (0x1E00, "latn"), (0x1F00, "grek"), (0x1F16, "zzzz"), (0x1F18, "grek"),
  (0x1F1E, "zzzz"), (0x1F20, "grek"), (0x1F46, "zzzz"), (0x1F48, "grek"), (0x1F4E, "zzzz"),
  (0x1F50, "grek"), (0x1F58, "zzzz"), (0x1F59, "grek"), (0x1F5A, "zzzz"), (0x1F5B, "grek"),
  (0x1F5C, "zzzz"), (0x1F5D, "grek"), (0x1F5E, "zzzz"), (0x1F5F, "grek"), (0x1F7E, "zzzz"),
  (0x1F80, "grek"), (0x1FB5, "zzzz"), (0x1FB6, "grek"), (0x1FC5, "zzzz"), (0x1FC6, "grek"),
  (0x1FD4, "zzzz"), (0x1FD6, "grek"), (0x1FDC, "zzzz"), (0x1FDD, "grek"), (0x1FF0, "zzzz"),
  (0x1FF2, "grek"), (0x1FF5, "zzzz"), (0x1FF6, "grek"), (0x1FFF, "zzzz"), (0x2000, "zyyy"),
  (0x200C, "zinh"), (0x200E, "zyyy"), (0x2065, "zzzz"), (0x2066, "zyyy"), (0x2071, "latn"),
  (0x2072, "zzzz"), (0x2074, "zyyy"), (0x207F, "latn"), (0x2080, "zyyy"), (0x208F, "zzzz"),
  (0x2090, "latn"), (0x209D, "zzzz"), (0x20A0, "zyyy"), (0x20C1, "zzzz"), (0x20D0, "zinh"),
  (0x20F1, "zzzz"), (0x2100, "zyyy"), (0x2126, "grek"), (0x2127, "zyyy"), (0x212A, "latn"),
  (0x212C, "zyyy"), (0x2132, "latn"), (0x2133, "zyyy"), (0x214E, "latn"), (0x214F, "zyyy"),
  (0x2160, "latn"), (0x2189, "zyyy"), (0x218C, "zzzz"), (0x2190, "zyyy"), (0x242A, "zzzz"),
  (0x2440, "zyyy"), (0x244B, "zzzz"), (0x2460, "zyyy"), (0x2800, "brai"), (0x2900, "zyyy"),
  (0x2B74, "zzzz"), (0x2B76, "zyyy"), (0x2B96, "zzzz"), (0x2B97, "zyyy"), (0x2C00, "glag"),
  (0x2C60, "latn"), (0x2C80, "copt"), (0x2CF4, "zzzz"), (0x2CF9, "copt"), (0x2D00, "geor"),
  (0x2D26, "zzzz"), (0x2D27, "geor"), (0x2D28, "zzzz"), (0x2D2D, "geor"), (0x2D2E, "zzzz"),
  (0x2D30, "tfng"), (0x2D68, "zzzz"), (0x2D6F, "tfng"), (0x2D71, "zzzz"), (0x2D7F, "tfng"),
  (0x2D80, "ethi"), (0x2D97, "zzzz"), (0x2DA0, "ethi"), (0x2DA7, "zzzz"), (0x2DA8, "ethi"),
  (0x2DAF, "zzzz"), (0x2DB0, "ethi"), (0x2DB7, "zzzz"), (0x2DB8, "ethi"), (0x2DBF, "zzzz"),
  (0x2DC0, "ethi"), (0x2DC7, "zzzz"), (0x2DC8, "ethi"), (0x2DCF, "zzzz"), (0x2DD0, "ethi"),
  (0x2DD7, "zzzz"), (0x2DD8, "ethi"), (0x2DDF, "zzzz"), (0x2DE0, "cyrl"), (0x2E00, "zyyy"),
  (0x2E5E, "zzzz"), (0x2E80, "hani"), (0x2E9A, "zzzz"), (0x2E9B, "hani"), (0x2EF4, "zzzz"),
  (0x2F00, "hani"), (0x2FD6, "zzzz"), (0x2FF0, "zyyy"), (0x3005, "hani"), (0x3006, "zyyy"),
  (0x3007, "hani"), (0x3008, "zyyy"), (0x3021, "hani"), (0x302A, "zinh"), (0x302E, "hang")]

private def scriptRows4 : List (Nat × String) := [
  (0x3030, "zyyy"), (0x3038, "hani"), (0x303C, "zyyy"), (0x3040, "zzzz"), (0x3041, "hira"),
  (0x3097, "zzzz"), (0x3099, "zinh"), (0x309B, "zyyy"), (0x309D, "hira"), (0x30A0, "zyyy"),
  (0x30A1, "kana"), (0x30FB, "zyyy"), (0x30FD, "kana"), (0x3100, "zzzz"), (0x3105, "bopo"),
  (0x3130, "zzzz"), (0x3131, "hang"), (0x318F, "zzzz"), (0x3190, "zyyy"), (0x31A0, "bopo"),
  (0x31C0, "zyyy"), (0x31E6, "zzzz"), (0x31EF, "zyyy"), (0x31F0, "kana"), (0x3200, "hang"),
  (0x321F, "zzzz"), (0x3220, "zyyy"), (0x3260, "hang"), (0x327F, "zyyy"), (0x32D0, "kana"),
  (0x32FF, "zyyy"), (0x3300, "kana"), (0x3358, "zyyy"), (0x3400, "hani"), (0x4DC0, "zyyy"),
  (0x4E00, "hani"), (0xA000, "yiii"), (0xA48D, "zzzz"), (0xA490, "yiii"), (0xA4C7, "zzzz"),
  (0xA4D0, "lisu"), (0xA500, "vaii"), (0xA62C, "zzzz"), (0xA640, "cyrl"), (0xA6A0, "bamu"),
  (0xA6F8, "zzzz"), (0xA700, "zyyy"), (0xA722, "latn"), (0xA788, "zyyy"), (0xA78B, "latn"),
  (0xA7CE, "zzzz"), (0xA7D0, "latn"), (0xA7D2, "zzzz"), (0xA7D3, "latn"), (0xA7D4, "zzzz"),
  (0xA7D5, "latn"), (0xA7DD, "zzzz"), (0xA7F2, "latn"), (0xA800, "sylo"), (0xA82D, "zzzz"),
  (0xA830, "zyyy"), (0xA83A, "zzzz"), (0xA840, "phag"), (0xA878, "zzzz"), (0xA880, "saur"),
  (0xA8C6, "zzzz"), (0xA8CE, "saur"), (0xA8DA, "zzzz"), (0xA8E0, "deva"), (0xA900, "kali"),
  (0xA92E, "zyyy"), (0xA92F, "kali"), (0xA930, "rjng"), (0xA954, "zzzz"), (0xA95F, "rjng"),
  (0xA960, "hang"), (0xA97D, "zzzz"), (0xA980, "java"), (0xA9CE, "zzzz"), (0xA9CF, "zyyy"),
  (0xA9D0, "java"), (0xA9DA, "zzzz"), (0xA9DE, "java"), (0xA9E0, "mymr"), (0xA9FF, "zzzz"),
  (0xAA00, "cham"), (0xAA37, "zzzz"), (0xAA40, "cham"), (0xAA4E, "zzzz"), (0xAA50, "cham"),
  (0xAA5A, "zzzz"), (0xAA5C, "cham"), (0xAA60, "mymr"), (0xAA80, "tavt"), (0xAAC3, "zzzz"),
  (0xAADB, "tavt"), (0xAAE0, "mtei"), (0xAAF7, "zzzz"), (0xAB01, "ethi"), (0xAB07, "zzzz"),
  (0xAB09, "ethi"), (0xAB0F, "zzzz"), (0xAB11, "ethi"), (0xAB17, "zzzz"), (0xAB20, "ethi"),
  (0xAB27, "zzzz"), (0xAB28, "ethi"), (0xAB2F, "zzzz"), (0xAB30, "latn"), (0xAB5B, "zyyy"),
  (0xAB5C, "latn"), (0xAB65, "grek"), (0xAB66, "latn"), (0xAB6A, "zyyy"), (0xAB6C, "zzzz"),
  (0xAB70, "cher"), (0xABC0, "mtei"), (0xABEE, "zzzz"), (0xABF0, "mtei"), (0xABFA, "zzzz"),
  (0xAC00, "hang"), (0xD7A4, "zzzz"), (0xD7B0, "hang"), (0xD7C7, "zzzz"), (0xD7CB, "hang"),
  (0xD7FC, "zzzz"), (0xF900, "hani"), (0xFA6E, "zzzz"), (0xFA70, "hani"), (0xFADA, "zzzz"),
  (0xFB00, "latn"), (0xFB07, "zzzz"), (0xFB13, "armn"), (0xFB18, "zzzz"), (0xFB1D, "hebr"),
  (0xFB37, "zzzz"), (0xFB38, "hebr"), (0xFB3D, "zzzz"), (0xFB3E, "hebr"), (0xFB3F, "zzzz"),
  (0xFB40, "hebr"), (0xFB42, "zzzz"), (0xFB43, "hebr"), (0xFB45, "zzzz"), (0xFB46, "hebr"),
  (0xFB50, "arab"), (0xFBC3, "zzzz"), (0xFBD3, "arab"), (0xFD3E, "zyyy"), (0xFD40, "arab"),
  (0xFD90, "zzzz"), (0xFD92, "arab"), (0xFDC8, "zzzz"), (0xFDCF, "arab"), (0xFDD0, "zzzz"),
  (0xFDF0, "arab"), (0xFE00, "zinh"), (0xFE10, "zyyy"), (0xFE1A, "zzzz"), (0xFE20, "zinh"),
  (0xFE2E, "cyrl"), (0xFE30, "zyyy"), (0xFE53, "zzzz"), (0xFE54, "zyyy"), (0xFE67, "zzzz"),
  (0xFE68, "zyyy"), (0xFE6C, "zzzz"), (0xFE70, "arab"), (0xFE75, "zzzz"), (0xFE76, "arab")]

private def scriptRows5 : List (Nat × String) := [
  (0xFEFD, "zzzz"), (0xFEFF, "zyyy"), (0xFF00, "zzzz"), (0xFF01, "zyyy"), (0xFF21, "latn"),
  (0xFF3B, "zyyy"), (0xFF41, "latn"), (0xFF5B, "zyyy"), (0xFF66, "kana"), (0xFF70, "zyyy"),
  (0xFF71, "kana"), (0xFF9E, "zyyy"), (0xFFA0, "hang"), (0xFFBF, "zzzz"), (0xFFC2, "hang"),
  (0xFFC8, "zzzz"), (0xFFCA, "hang"), (0xFFD0, "zzzz"), (0xFFD2, "hang"), (0xFFD8, "zzzz"),
  (0xFFDA, "hang"), (0xFFDD, "zzzz"), (0xFFE0, "zyyy"), (0xFFE7, "zzzz"), (0xFFE8, "zyyy"),
  (0xFFEF, "zzzz"), (0xFFF9, "zyyy"), (0xFFFE, "zzzz"), (0x10000, "linb"), (0x1000C, "zzzz"),
  (0x1000D, "linb"), (0x10027, "zzzz"), (0x10028, "linb"), (0x1003B, "zzzz"), (0x1003C, "linb"),
  (0x1003E, "zzzz"), (0x1003F, "linb"), (0x1004E, "zzzz"), (0x10050, "linb"), (0x1005E, "zzzz"),
  (0x10080, "linb"), (0x100FB, "zzzz"), (0x10100, "zyyy"), (0x10103, "zzzz"), (0x10107, "zyyy"),
  (0x10134, "zzzz"), (0x10137, "zyyy"), (0x10140, "grek"), (0x1018F, "zzzz"), (0x10190, "zyyy"),
  (0x1019D, "zzzz"), (0x101A0, "grek"), (0x101A1, "zzzz"), (0x101D0, "zyyy"), (0x101FD, "zinh"),
  (0x101FE, "zzzz"), (0x10280, "lyci"), (0x1029D, "zzzz"), (0x102A0, "cari"), (0x102D1, "zzzz"),
  (0x102E0, "zinh"), (0x102E1, "zyyy"), (0x102FC, "zzzz"), (0x10300, "ital"), (0x10324, "zzzz"),
  (0x1032D, "ital"), (0x10330, "goth"), (0x1034B, "zzzz"), (0x10350, "perm"), (0x1037B, "zzzz"),
  (0x10380, "ugar"), (0x1039E, "zzzz"), (0x1039F, "ugar"), (0x103A0, "xpeo"), (0x103C4, "zzzz"),
  (0x103C8, "xpeo"), (0x103D6, "zzzz"), (0x10400, "dsrt"), (0x10450, "shaw"), (0x10480, "osma"),
  (0x1049E, "zzzz"), (0x104A0, "osma"), (0x104AA, "zzzz"), (0x104B0, "osge"), (0x104D4, "zzzz"),
  (0x104D8, "osge"), (0x104FC, "zzzz"), (0x10500, "elba"), (0x10528, "zzzz"), (0x10530, "aghb"),
  (0x10564, "zzzz"), (0x1056F, "aghb"), (0x10570, "vith"), (0x1057B, "zzzz"), (0x1057C, "vith"),
  (0x1058B, "zzzz"), (0x1058C, "vith"), (0x10593, "zzzz"), (0x10594, "vith"), (0x10596, "zzzz"),
  (0x10597, "vith"), (0x105A2, "zzzz"), (0x105A3, "vith"), (0x105B2, "zzzz"), (0x105B3, "vith"),
  (0x105BA, "zzzz"), (0x105BB, "vith"), (0x105BD, "zzzz"), (0x105C0, "todr"), (0x105F4, "zzzz"),
  (0x10600, "lina"), (0x10737, "zzzz"), (0x10740, "lina"), (0x10756, "zzzz"), (0x10760, "lina"),
  (0x10768, "zzzz"), (0x10780, "latn"), (0x10786, "zzzz"), (0x10787, "latn"), (0x107B1, "zzzz"),
  (0x107B2, "latn"), (0x107BB, "zzzz"), (0x10800, "cprt"), (0x10806, "zzzz"), (0x10808, "cprt"),
  (0x10809, "zzzz"), (0x1080A, "cprt"), (0x10836, "zzzz"), (0x10837, "cprt"), (0x10839, "zzzz"),
  (0x1083C, "cprt"), (0x1083D, "zzzz"), (0x1083F, "cprt"), (0x10840, "armi"), (0x10856, "zzzz"),
  (0x10857, "armi"), (0x10860, "palm"), (0x10880, "nbat"), (0x1089F, "zzzz"), (0x108A7, "nbat"),
  (0x108B0, "zzzz"), (0x108E0, "hatr"), (0x108F3, "zzzz"), (0x108F4, "hatr"), (0x108F6, "zzzz"),
  (0x108FB, "hatr"), (0x10900, "phnx"), (0x1091C, "zzzz"), (0x1091F, "phnx"), (0x10920, "lydi"),
  (0x1093A, "zzzz"), (0x1093F, "lydi"), (0x10940, "zzzz"), (0x10980, "mero"), (0x109A0, "merc"),
  (0x109B8, "zzzz"), (0x109BC, "merc"), (0x109D0, "zzzz"), (0x109D2, "merc"), (0x10A00, "khar"),
  (0x10A04, "zzzz"), (0x10A05, "khar"), (0x10A07, "zzzz"), (0x10A0C, "khar"), (0x10A14, "zzzz"),
  (0x10A15, "khar"), (0x10A18, "zzzz"), (0x10A19, "khar"), (0x10A36, "zzzz"), (0x10A38, "khar")]

private def scriptRows6 : List (Nat × String) := [
  (0x10A3B, "zzzz"), (0x10A3F, "khar"), (0x10A49, "zzzz"), (0x10A50, "khar"), (0x10A59, "zzzz"),
  (0x10A60, "sarb"), (0x10A80, "narb"), (0x10AA0, "zzzz"), (0x10AC0, "mani"), (0x10AE7, "zzzz"),
  (0x10AEB, "mani"), (0x10AF7, "zzzz"), (0x10B00, "avst"), (0x10B36, "zzzz"), (0x10B39, "avst"),
  (0x10B40, "prti"), (0x10B56, "zzzz"), (0x10B58, "prti"), (0x10B60, "phli"), (0x10B73, "zzzz"),
  (0x10B78, "phli"), (0x10B80, "phlp"), (0x10B92, "zzzz"), (0x10B99, "phlp"), (0x10B9D, "zzzz"),
  (0x10BA9, "phlp"), (0x10BB0, "zzzz"), (0x10C00, "orkh"), (0x10C49, "zzzz"), (0x10C80, "hung"),
  (0x10CB3, "zzzz"), (0x10CC0, "hung"), (0x10CF3, "zzzz"), (0x10CFA, "hung"), (0x10D00, "rohg"),
  (0x10D28, "zzzz"), (0x10D30, "rohg"), (0x10D3A, "zzzz"), (0x10D40, "gara"), (0x10D66, "zzzz"),
  (0x10D69, "gara"), (0x10D86, "zzzz"), (0x10D8E, "gara"), (0x10D90, "zzzz"), (0x10E60, "arab"),
  (0x10E7F, "zzzz"), (0x10E80, "yezi"), (0x10EAA, "zzzz"), (0x10EAB, "yezi"), (0x10EAE, "zzzz"),
  (0x10EB0, "yezi"), (0x10EB2, "zzzz"), (0x10EC2, "arab"), (0x10EC5, "zzzz"), (0x10EFC, "arab"),
  (0x10F00, "sogo"), (0x10F28, "zzzz"), (0x10F30, "sogd"), (0x10F5A, "zzzz"), (0x10F70, "ougr"),
  (0x10F8A, "zzzz"), (0x10FB0, "chrs"), (0x10FCC, "zzzz"), (0x10FE0, "elym"), (0x10FF7, "zzzz"),
  (0x11000, "brah"), (0x1104E, "zzzz"), (0x11052, "brah"), (0x11076, "zzzz"), (0x1107F, "brah"),
  (0x11080, "kthi"), (0x110C3, "zzzz"), (0x110CD, "kthi"), (0x110CE, "zzzz"), (0x110D0, "sora"),
  (0x110E9, "zzzz"), (0x110F0, "sora"), (0x110FA, "zzzz"), (0x11100, "cakm"), (0x11135, "zzzz"),
  (0x11136, "cakm"), (0x11148, "zzzz"), (0x11150, "mahj"), (0x11177, "zzzz"), (0x11180, "shrd"),
  (0x111E0, "zzzz"), (0x111E1, "sinh"), (0x111F5, "zzzz"), (0x11200, "khoj"), (0x11212, "zzzz"),
  (0x11213, "khoj"), (0x11242, "zzzz"), (0x11280, "mult"), (0x11287, "zzzz"), (0x11288, "mult"),
  (0x11289, "zzzz"), (0x1128A, "mult"), (0x1128E, "zzzz"), (0x1128F, "mult"), (0x1129E, "zzzz"),
  (0x1129F, "mult"), (0x112AA, "zzzz"), (0x112B0, "sind"), (0x112EB, "zzzz"), (0x112F0, "sind"),
  (0x112FA, "zzzz"), (0x11300, "gran"), (0x11304, "zzzz"), (0x11305, "gran"), (0x1130D, "zzzz"),
  (0x1130F, "gran"), (0x11311, "zzzz"), (0x11313, "gran"), (0x11329, "zzzz"), (0x1132A, "gran"),
  (0x11331, "zzzz"), (0x11332, "gran"), (0x11334, "zzzz"), (0x11335, "gran"), (0x1133A, "zzzz"),
  (0x1133B, "zinh"), (0x1133C, "gran"), (0x11345, "zzzz"), (0x11347, "gran"), (0x11349, "zzzz"),
  (0x1134B, "gran"), (0x1134E, "zzzz"), (0x11350, "gran"), (0x11351, "zzzz"), (0x11357, "gran"),
  (0x11358, "zzzz"), (0x1135D, "gran"), (0x11364, "zzzz"), (0x11366, "gran"), (0x1136D, "zzzz"),
  (0x11370, "gran"), (0x11375, "zzzz"), (0x11380, "tutg"), (0x1138A, "zzzz"), (0x1138B, "tutg"),
  (0x1138C, "zzzz"), (0x1138E, "tutg"), (0x1138F, "zzzz"), (0x11390, "tutg"), (0x113B6, "zzzz"),
  (0x113B7, "tutg"), (0x113C1, "zzzz"), (0x113C2, "tutg"), (0x113C3, "zzzz"), (0x113C5, "tutg"),
  (0x113C6, "zzzz"), (0x113C7, "tutg"), (0x113CB, "zzzz"), (0x113CC, "tutg"), (0x113D6, "zzzz"),
  (0x113D7, "tutg"), (0x113D9, "zzzz"), (0x113E1, "tutg"), (0x113E3, "zzzz"), (0x11400, "newa"),
  (0x1145C, "zzzz"), (0x1145D, "newa"), (0x11462, "zzzz"), (0x11480, "tirh"), (0x114C8, "zzzz"),
  (0x114D0, "tirh"), (0x114DA, "zzzz"), (0x11580, "sidd"), (0x115B6, "zzzz"), (0x115B8, "sidd")]

private def scriptRows7 : List (Nat × String) := [
  (0x115DE, "zzzz"), (0x11600, "modi"), (0x11645, "zzzz"), (0x11650, "modi"), (0x1165A, "zzzz"),
  (0x11660, "mong"), (0x1166D, "zzzz"), (0x11680, "takr"), (0x116BA, "zzzz"), (0x116C0, "takr"),
  (0x116CA, "zzzz"), (0x116D0, "mymr"), (0x116E4, "zzzz"), (0x11700, "ahom"), (0x1171B, "zzzz"),
  (0x1171D, "ahom"), (0x1172C, "zzzz"), (0x11730, "ahom"), (0x11747, "zzzz"), (0x11800, "dogr"),
  (0x1183C, "zzzz"), (0x118A0, "wara"), (0x118F3, "zzzz"), (0x118FF, "wara"), (0x11900, "diak"),
  (0x11907, "zzzz"), (0x11909, "diak"), (0x1190A, "zzzz"), (0x1190C, "diak"), (0x11914, "zzzz"),
  (0x11915, "diak"), (0x11917, "zzzz"), (0x11918, "diak"), (0x11936, "zzzz"), (0x11937, "diak"),
  (0x11939, "zzzz"), (0x1193B, "diak"), (0x11947, "zzzz"), (0x11950, "diak"), (0x1195A, "zzzz"),
  (0x119A0, "nand"), (0x119A8, "zzzz"), (0x119AA, "nand"), (0x119D8, "zzzz"), (0x119DA, "nand"),
  (0x119E5, "zzzz"), (0x11A00, "zanb"), (0x11A48, "zzzz"), (0x11A50, "soyo"), (0x11AA3, "zzzz"),
  (0x11AB0, "cans"), (0x11AC0, "pauc"), (0x11AF9, "zzzz"), (0x11B00, "deva"), (0x11B0A, "zzzz"),
  (0x11BC0, "sunu"), (0x11BE2, "zzzz"), (0x11BF0, "sunu"), (0x11BFA, "zzzz"), (0x11C00, "bhks"),
  (0x11C09, "zzzz"), (0x11C0A, "bhks"), (0x11C37, "zzzz"), (0x11C38, "bhks"), (0x11C46, "zzzz"),
  (0x11C50, "bhks"), (0x11C6D, "zzzz"), (0x11C70, "marc"), (0x11C90, "zzzz"), (0x11C92, "marc"),
  (0x11CA8, "zzzz"), (0x11CA9, "marc"), (0x11CB7, "zzzz"), (0x11D00, "gonm"), (0x11D07, "zzzz"),
  (0x11D08, "gonm"), (0x11D0A, "zzzz"), (0x11D0B, "gonm"), (0x11D37, "zzzz"), (0x11D3A, "gonm"),
  (0x11D3B, "zzzz"), (0x11D3C, "gonm"), (0x11D3E, "zzzz"), (0x11D3F, "gonm"), (0x11D48, "zzzz"),
  (0x11D50, "gonm"), (0x11D5A, "zzzz"), (0x11D60, "gong"), (0x11D66, "zzzz"), (0x11D67, "gong"),
  (0x11D69, "zzzz"), (0x11D6A, "gong"), (0x11D8F, "zzzz"), (0x11D90, "gong"), (0x11D92, "zzzz"),
  (0x11D93, "gong"), (0x11D99, "zzzz"), (0x11DA0, "gong"), (0x11DAA, "zzzz"), (0x11EE0, "maka"),
  (0x11EF9, "zzzz"), (0x11F00, "kawi"), (0x11F11, "zzzz"), (0x11F12, "kawi"), (0x11F3B, "zzzz"),
  (0x11F3E, "kawi"), (0x11F5B, "zzzz"), (0x11FB0, "lisu"), (0x11FB1, "zzzz"), (0x11FC0, "taml"),
  (0x11FF2, "zzzz"), (0x11FFF, "taml"), (0x12000, "xsux"), (0x1239A, "zzzz"), (0x12400, "xsux"),
  (0x1246F, "zzzz"), (0x12470, "xsux"), (0x12475, "zzzz"), (0x12480, "xsux"), (0x12544, "zzzz"),
  (0x12F90, "cpmn"), (0x12FF3, "zzzz"), (0x13000, "egyp"), (0x13456, "zzzz"), (0x13460, "egyp"),
  (0x143FB, "zzzz"), (0x14400, "hluw"), (0x14647, "zzzz"), (0x16100, "gukh"), (0x1613A, "zzzz"),
  (0x16800, "bamu"), (0x16A39, "zzzz"), (0x16A40, "mroo"), (0x16A5F, "zzzz"), (0x16A60, "mroo"),
  (0x16A6A, "zzzz"), (0x16A6E, "mroo"), (0x16A70, "tnsa"), (0x16ABF, "zzzz"), (0x16AC0, "tnsa"),
  (0x16ACA, "zzzz"), (0x16AD0, "bass"), (0x16AEE, "zzzz"), (0x16AF0, "bass"), (0x16AF6, "zzzz"),
  (0x16B00, "hmng"), (0x16B46, "zzzz"), (0x16B50, "hmng"), (0x16B5A, "zzzz"), (0x16B5B, "hmng"),
  (0x16B62, "zzzz"), (0x16B63, "hmng"), (0x16B78, "zzzz"), (0x16B7D, "hmng"), (0x16B90, "zzzz"),
  (0x16D40, "krai"), (0x16D7A, "zzzz"), (0x16E40, "medf"), (0x16E9B, "zzzz"), (0x16F00, "plrd"),
  (0x16F4B, "zzzz"), (0x16F4F, "plrd"), (0x16F88, "zzzz"), (0x16F8F, "plrd"), (0x16FA0, "zzzz"),
  (0x16FE0, "tang"), (0x16FE1, "nshu"), (0x16FE2, "hani"), (0x16FE4, "kits"), (0x16FE5, "zzzz")]

private def scriptRows8 : List (Nat × String) := [
  (0x16FF0, "hani"), (0x16FF2, "zzzz"), (0x17000, "tang"), (0x187F8, "zzzz"), (0x18800, "tang"),
  (0x18B00, "kits"), (0x18CD6, "zzzz"), (0x18CFF, "kits"), (0x18D00, "tang"), (0x18D09, "zzzz"),
  (0x1AFF0, "kana"), (0x1AFF4, "zzzz"), (0x1AFF5, "kana"), (0x1AFFC, "zzzz"), (0x1AFFD, "kana"),
  (0x1AFFF, "zzzz"), (0x1B000, "kana"), (0x1B001, "hira"), (0x1B120, "kana"), (0x1B123, "zzzz"),
  (0x1B132, "hira"), (0x1B133, "zzzz"), (0x1B150, "hira"), (0x1B153, "zzzz"), (0x1B155, "kana"),
  (0x1B156, "zzzz"), (0x1B164, "kana"), (0x1B168, "zzzz"), (0x1B170, "nshu"), (0x1B2FC, "zzzz"),
  (0x1BC00, "dupl"), (0x1BC6B, "zzzz"), (0x1BC70, "dupl"), (0x1BC7D, "zzzz"), (0x1BC80, "dupl"),
  (0x1BC89, "zzzz"), (0x1BC90, "dupl"), (0x1BC9A, "zzzz"), (0x1BC9C, "dupl"), (0x1BCA0, "zyyy"),
  (0x1BCA4, "zzzz"), (0x1CC00, "zyyy"), (0x1CCFA, "zzzz"), (0x1CD00, "zyyy"), (0x1CEB4, "zzzz"),
  (0x1CF00, "zinh"), (0x1CF2E, "zzzz"), (0x1CF30, "zinh"), (0x1CF47, "zzzz"), (0x1CF50, "zyyy"),
  (0x1CFC4, "zzzz"), (0x1D000, "zyyy"), (0x1D0F6, "zzzz"), (0x1D100, "zyyy"), (0x1D127, "zzzz"),
  (0x1D129, "zyyy"), (0x1D167, "zinh"), (0x1D16A, "zyyy"), (0x1D17B, "zinh"), (0x1D183, "zyyy"),
  (0x1D185, "zinh"), (0x1D18C, "zyyy"), (0x1D1AA, "zinh"), (0x1D1AE, "zyyy"), (0x1D1EB, "zzzz"),
  (0x1D200, "grek"), (0x1D246, "zzzz"), (0x1D2C0, "zyyy"), (0x1D2D4, "zzzz"), (0x1D2E0, "zyyy"),
  (0x1D2F4, "zzzz"), (0x1D300, "zyyy"), (0x1D357, "zzzz"), (0x1D360, "zyyy"), (0x1D379, "zzzz"),
  (0x1D400, "zyyy"), (0x1D455, "zzzz"), (0x1D456, "zyyy"), (0x1D49D, "zzzz"), (0x1D49E, "zyyy"),
  (0x1D4A0, "zzzz"), (0x1D4A2, "zyyy"), (0x1D4A3, "zzzz"), (0x1D4A5, "zyyy"), (0x1D4A7, "zzzz"),
  (0x1D4A9, "zyyy"), (0x1D4AD, "zzzz"), (0x1D4AE, "zyyy"), (0x1D4BA, "zzzz"), (0x1D4BB, "zyyy"),
  (0x1D4BC, "zzzz"), (0x1D4BD, "zyyy"), (0x1D4C4, "zzzz"), (0x1D4C5, "zyyy"), (0x1D506, "zzzz"),
  (0x1D507, "zyyy"), (0x1D50B, "zzzz"), (0x1D50D, "zyyy"), (0x1D515, "zzzz"), (0x1D516, "zyyy"),
  (0x1D51D, "zzzz"), (0x1D51E, "zyyy"), (0x1D53A, "zzzz"), (0x1D53B, "zyyy"), (0x1D53F, "zzzz"),
  (0x1D540, "zyyy"), (0x1D545, "zzzz"), (0x1D546, "zyyy"), (0x1D547, "zzzz"), (0x1D54A, "zyyy"),
  (0x1D551, "zzzz"), (0x1D552, "zyyy"), (0x1D6A6, "zzzz"), (0x1D6A8, "zyyy"), (0x1D7CC, "zzzz"),
  (0x1D7CE, "zyyy"), (0x1D800, "sgnw"), (0x1DA8C, "zzzz"), (0x1DA9B, "sgnw"), (0x1DAA0, "zzzz"),
  (0x1DAA1, "sgnw"), (0x1DAB0, "zzzz"), (0x1DF00, "latn"), (0x1DF1F, "zzzz"), (0x1DF25, "latn"),
  (0x1DF2B, "zzzz"), (0x1E000, "glag"), (0x1E007, "zzzz"), (0x1E008, "glag"), (0x1E019, "zzzz"),
  (0x1E01B, "glag"), (0x1E022, "zzzz"), (0x1E023, "glag"), (0x1E025, "zzzz"), (0x1E026, "glag"),
  (0x1E02B, "zzzz"), (0x1E030, "cyrl"), (0x1E06E, "zzzz"), (0x1E08F, "cyrl"), (0x1E090, "zzzz"),
  (0x1E100, "hmnp"), (0x1E12D, "zzzz"), (0x1E130, "hmnp"), (0x1E13E, "zzzz"), (0x1E140, "hmnp"),
  (0x1E14A, "zzzz"), (0x1E14E, "hmnp"), (0x1E150, "zzzz"), (0x1E290, "toto"), (0x1E2AF, "zzzz"),
  (0x1E2C0, "wcho"), (0x1E2FA, "zzzz"), (0x1E2FF, "wcho"), (0x1E300, "zzzz"), (0x1E4D0, "nagm"),
  (0x1E4FA, "zzzz"), (0x1E5D0, "onao"), (0x1E5FB, "zzzz"), (0x1E5FF, "onao"), (0x1E600, "zzzz"),
  (0x1E7E0, "ethi"), (0x1E7E7, "zzzz"), (0x1E7E8, "ethi"), (0x1E7EC, "zzzz"), (0x1E7ED, "ethi"),
  (0x1E7EF, "zzzz"), (0x1E7F0, "ethi"), (0x1E7FF, "zzzz"), (0x1E800, "mend"), (0x1E8C5, "zzzz")]

private def scriptRows9 : List (Nat × String) := [
  (0x1E8C7, "mend"), (0x1E8D7, "zzzz"), (0x1E900, "adlm"), (0x1E94C, "zzzz"), (0x1E950, "adlm"),
  (0x1E95A, "zzzz"), (0x1E95E, "adlm"), (0x1E960, "zzzz"), (0x1EC71, "zyyy"), (0x1ECB5, "zzzz"),
  (0x1ED01, "zyyy"), (0x1ED3E, "zzzz"), (0x1EE00, "arab"), (0x1EE04, "zzzz"), (0x1EE05, "arab"),
  (0x1EE20, "zzzz"), (0x1EE21, "arab"), (0x1EE23, "zzzz"), (0x1EE24, "arab"), (0x1EE25, "zzzz"),
  (0x1EE27, "arab"), (0x1EE28, "zzzz"), (0x1EE29, "arab"), (0x1EE33, "zzzz"), (0x1EE34, "arab"),
  (0x1EE38, "zzzz"), (0x1EE39, "arab"), (0x1EE3A, "zzzz"), (0x1EE3B, "arab"), (0x1EE3C, "zzzz"),
  (0x1EE42, "arab"), (0x1EE43, "zzzz"), (0x1EE47, "arab"), (0x1EE48, "zzzz"), (0x1EE49, "arab"),
  (0x1EE4A, "zzzz"), (0x1EE4B, "arab"), (0x1EE4C, "zzzz"), (0x1EE4D, "arab"), (0x1EE50, "zzzz"),
  (0x1EE51, "arab"), (0x1EE53, "zzzz"), (0x1EE54, "arab"), (0x1EE55, "zzzz"), (0x1EE57, "arab"),
  (0x1EE58, "zzzz"), (0x1EE59, "arab"), (0x1EE5A, "zzzz"), (0x1EE5B, "arab"), (0x1EE5C, "zzzz"),
  (0x1EE5D, "arab"), (0x1EE5E, "zzzz"), (0x1EE5F, "arab"), (0x1EE60, "zzzz"), (0x1EE61, "arab"),
  (0x1EE63, "zzzz"), (0x1EE64, "arab"), (0x1EE65, "zzzz"), (0x1EE67, "arab"), (0x1EE6B, "zzzz"),
  (0x1EE6C, "arab"), (0x1EE73, "zzzz"), (0x1EE74, "arab"), (0x1EE78, "zzzz"), (0x1EE79, "arab"),
  (0x1EE7D, "zzzz"), (0x1EE7E, "arab"), (0x1EE7F, "zzzz"), (0x1EE80, "arab"), (0x1EE8A, "zzzz"),
  (0x1EE8B, "arab"), (0x1EE9C, "zzzz"), (0x1EEA1, "arab"), (0x1EEA4, "zzzz"), (0x1EEA5, "arab"),
  (0x1EEAA, "zzzz"), (0x1EEAB, "arab"), (0x1EEBC, "zzzz"), (0x1EEF0, "arab"), (0x1EEF2, "zzzz"),
  (0x1F000, "zyyy"), (0x1F02C, "zzzz"), (0x1F030, "zyyy"), (0x1F094, "zzzz"), (0x1F0A0, "zyyy"),
  (0x1F0AF, "zzzz"), (0x1F0B1, "zyyy"), (0x1F0C0, "zzzz"), (0x1F0C1, "zyyy"), (0x1F0D0, "zzzz"),
  (0x1F0D1, "zyyy"), (0x1F0F6, "zzzz"), (0x1F100, "zyyy"), (0x1F1AE, "zzzz"), (0x1F1E6, "zyyy"),
  (0x1F200, "hira"), (0x1F201, "zyyy"), (0x1F203, "zzzz"), (0x1F210, "zyyy"), (0x1F23C, "zzzz"),
  (0x1F240, "zyyy"), (0x1F249, "zzzz"), (0x1F250, "zyyy"), (0x1F252, "zzzz"), (0x1F260, "zyyy"),
  (0x1F266, "zzzz"), (0x1F300, "zyyy"), (0x1F6D8, "zzzz"), (0x1F6DC, "zyyy"), (0x1F6ED, "zzzz"),
  (0x1F6F0, "zyyy"), (0x1F6FD, "zzzz"), (0x1F700, "zyyy"), (0x1F777, "zzzz"), (0x1F77B, "zyyy"),
  (0x1F7DA, "zzzz"), (0x1F7E0, "zyyy"), (0x1F7EC, "zzzz"), (0x1F7F0, "zyyy"), (0x1F7F1, "zzzz"),
  (0x1F800, "zyyy"), (0x1F80C, "zzzz"), (0x1F810, "zyyy"), (0x1F848, "zzzz"), (0x1F850, "zyyy"),
  (0x1F85A, "zzzz"), (0x1F860, "zyyy"), (0x1F888, "zzzz"), (0x1F890, "zyyy"), (0x1F8AE, "zzzz"),
  (0x1F8B0, "zyyy"), (0x1F8BC, "zzzz"), (0x1F8C0, "zyyy"), (0x1F8C2, "zzzz"), (0x1F900, "zyyy"),
  (0x1FA54, "zzzz"), (0x1FA60, "zyyy"), (0x1FA6E, "zzzz"), (0x1FA70, "zyyy"), (0x1FA7D, "zzzz"),
  (0x1FA80, "zyyy"), (0x1FA8A, "zzzz"), (0x1FA8F, "zyyy"), (0x1FAC7, "zzzz"), (0x1FACE, "zyyy"),
  (0x1FADD, "zzzz"), (0x1FADF, "zyyy"), (0x1FAEA, "zzzz"), (0x1FAF0, "zyyy"), (0x1FAF9, "zzzz"),
  (0x1FB00, "zyyy"), (0x1FB93, "zzzz"), (0x1FB94, "zyyy"), (0x1FBFA, "zzzz"), (0x20000, "hani"),
  (0x2A6E0, "zzzz"), (0x2A700, "hani"), (0x2B73A, "zzzz"), (0x2B740, "hani"), (0x2B81E, "zzzz"),
  (0x2B820, "hani"), (0x2CEA2, "zzzz"), (0x2CEB0, "hani"), (0x2EBE1, "zzzz"), (0x2EBF0, "hani"),
  (0x2EE5E, "zzzz"), (0x2F800, "hani"), (0x2FA1E, "zzzz"), (0x30000, "hani"), (0x3134B, "zzzz")]

private def scriptRows10 : List (Nat × String) := [
  (0x31350, "hani"), (0x323B0, "zzzz"), (0xE0001, "zyyy"), (0xE0002, "zzzz"), (0xE0020, "zyyy"),
  (0xE0080, "zzzz"), (0xE0100, "zinh"), (0xE01F0, "zzzz")]

/-- The first code point of each run of one script in Unicode 16.0, and the code of that script. -/
def runs : List (Nat × String) :=
  scriptRows0 ++ scriptRows1 ++ scriptRows2 ++ scriptRows3 ++ scriptRows4 ++ scriptRows5 ++
    scriptRows6 ++ scriptRows7 ++ scriptRows8 ++ scriptRows9 ++ scriptRows10

def set (code : String) : CharSet := .ofRows (· = code) runs

end RecordFilter.Unicode.Script
