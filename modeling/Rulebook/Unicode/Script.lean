/-!
The script of each character.
-/

namespace Rulebook
namespace Unicode

def scripts : List (List String × List String) :=
  [(["adlm", "adlam"],
    ["HDEuCxejeb"]),
   (["aghb", "caucasianalbanian"],
    ["DUXsBzla"]),
   (["ahom"],
    ["EBRcBacoew"]),
   (["arab", "arabic"],
    ["CHcebfbnbcbBfbjlzbEdbBhDcBvJgBebbgCvbBcDNTwEkqNycDbcCbhaBgpEiebFeFVnBeEwcDGLsdbBabbbacabjb",
     "dbabagaeabababcbbbacabababababbbacdbgbdbdbabjbqfcbebqCab"]),
   (["armi", "imperialaramaic"],
    ["DWBwvbi"]),
   (["armn", "armenian"],
    ["BZdBlcBxccDOZje"]),
   (["avst", "avestan"],
    ["DXCyCbdg"]),
   (["bali", "balinese"],
    ["KFwCydBu"]),
   (["bamu", "bamum"],
    ["CLCqDjCVCqVw"]),
   (["bass", "bassavah"],
    ["FHKiBdcf"]),
   (["batk", "batak"],
    ["KNgBzid"]),
   (["beng", "bengali"],
    ["DPodbhcbcvbgbaddcicbcdiaebbecy"]),
   (["bhks", "bhaiksuki"],
    ["EDOiibBsbnkBc"]),
   (["bopo", "bopomofo"],
    ["BCsbRLxBqEiBf"]),
   (["brah", "brahmi"],
    ["DZAeCzeBjja"]),
   (["brai", "braille"],
    ["PDwJv"]),
   (["bugi", "buginese"],
    ["JWaBbcb"]),
   (["buhd", "buhid"],
    ["IUyt"]),
   (["cakm", "chakma"],
    ["DZKaCabr"]),
   (["cans", "canadianaboriginal"],
    ["HOyYpVoCrDTPqp"]),
   (["cari", "carian"],
    ["DTYmBw"]),
   (["cham"],
    ["CMJwCcjncjcd"]),
   (["cher", "cherokee"],
    ["HLgDhcfCFJeDb"]),
   (["chrs", "chorasmian"],
    ["DYXcBb"]),
   (["copt", "coptic", "qaac"],
    ["BMgnPJkElfg"]),
   (["cpmn", "cyprominoan"],
    ["EKYyDu"]),
   (["cprt", "cypriot"],
    ["DVZkfcabBrbbdaca"]),
   (["cyrl", "cyrillic"],
    ["BNkFccGmIVoiGgaCyaGFnBfBTOaDrBHEcbDHPgCjBha"]),
   (["deva", "devanagari"],
    ["DKqDceoczCIJgBfBREmj"]),
   (["diak", "divesakuru"],
    ["ECKugcachbbbBdbbcljj"]),
   (["dogr", "dogra"],
    ["ECAyCh"]),
   (["dsrt", "deseret"],
    ["DUMaDb"]),
   (["dupl", "duployan"],
    ["GMDsEcfmdihjcd"]),
   (["egyp", "egyptianhieroglyphs"],
    ["ELDgBQr"]),
   (["elba", "elbasan"],
    ["DUVwBn"]),
   (["elym", "elymaic"],
    ["DYYyw"]),
   (["ethi", "ethiopic"],
    ["GVgCubdcgbabdcBobdcBgbdcgbabdcobCebdcCocBfdzJVawjgbgbgbgbgbgbgbgBVKcfcfcfjgbgEPYfgbdbbbo"]),
   (["geor", "georgian"],
    ["GHsBlbafacBqbdEJwBqccGEaBlbafa"]),
   (["glag", "glagolitic"],
    ["QRgDrGIZggbqcgbbbe"]),
   (["gong", "gunjalagondi"],
    ["EEBwfbbbBkbbbfhj"]),
   (["gonm", "masaramgondi"],
    ["EDYegbbbBrdabbbiij"]),
   (["goth", "gothic"],
    ["DUEaBa"]),
   (["gran", "grantha"],
    ["EADsdbhcbcvbgbbbecicbcccagafgcgde"]),
   (["grek", "greek"],
    ["BHwdbccdbaeababcbabtbCkopJNqeByeeeDgaMivcfcBlcfchbabababBecCabobncfbsccbiLjaCAJeaBGNiDaraD",
     "AXrCr"]),
   (["gujr", "gujarati"],
    ["DZlcbibcbvbgbbbecjbcbccapdclhg"]),
   (["guru", "gurmukhi"],
    ["DUncbfebcvbgbbbbbbcabeebccdahdbahq"]),
   (["hang", "hangul"],
    ["GLkJvLLebJxDpEjBeCnBeBTAnBcYtQNrmweBwPAiBedfcfcfcc"]),
   (["hani", "han"],
    ["RPwzbDkmIfBvabaziodBLcJTnCmBFBjBHSiObcEbBSIibmbCCOkCLFbBgGDtgIncINpoLBkEPjUvCFyHHyfGFf"]),
   (["hano", "hanunoo"],
    ["ITsu"]),
   (["hatr", "hatran"],
    ["DWIasbbfe"]),
   (["hebr", "hebrew"],
    ["CCvCciBaefDOVwzbebabbbbbj"]),
   (["hira", "hiragana"],
    ["SHdDhgcFPEvLasaBdcYMva"]),
   (["hluw", "anatolianhieroglyphs"],
    ["ESSeWk"]),
   (["hmng", "pahawhhmong"],
    ["FHMeCrkjbgbufs"]),
   (["hmnp", "nyiakengpuachuehmong"],
    ["HAEaBsdncjeb"]),
   (["hung", "oldhungarian"],
    ["DXRsBynByhf"]),
   (["ital", "olditalic"],
    ["DUCeBjjc"]),
   (["java", "javanese"],
    ["CMEyCzcjeb"]),
   (["kali", "kayahli"],
    ["CMAaBtba"]),
   (["kana", "katakana"],
    ["SKvDlccJgpIaBubDjCZHejbBsCOUcdbgbbbaLbcByaod"]),
   (["kawi"],
    ["EERwqbBodBb"]),
   (["khar", "kharoshthi"],
    ["DWTcdbbfhbcbBcccejhi"]),
   (["khmr", "khmer"],
    ["IXkDpcjgjSsBf"]),
   (["khoj", "khojki"],
    ["DZTwrbBu"]),
   (["kits", "khitansmallscript"],
    ["FJIiaKGxSb"]),
   (["knda", "kannada"],
    ["ETcmbcbwbjbecibcbdhbgbbdcjbc"]),
   (["kthi", "kaithi"],
    ["DZFcCoka"]),
   (["lana", "taitham"],
    ["JXgCkbBcckgjgn"]),
   (["laoo", "lao"],
    ["FMvbbabebxbabwcebabgbjcd"]),
   (["latn", "latin"],
    ["CnzgzBvapafwbBebRgBneJXbBlgBwfdfmbCrCnJvOfanaqmFlbgaBbarBoECtBfBULmDxdClfbbabeynBFkBqbibdB",
     "EDqgBOkzgzDCffbBpbiDDNpBegf"]),
   (["lepc", "lepcha"],
    ["KPsCddodc"]),
   (["limb", "limbu"],
    ["JMeBebleleadl"]),
   (["lina", "lineara"],
    ["DVFsLyjvkh"]),
   (["linb", "linearb"],
    ["DSYqlbzbsbbbocnBiEs"]),
   (["lisu"],
    ["CKKuBvBUMaa"]),
   (["lyci", "lycian"],
    ["DTXgBc"]),
   (["lydi", "lydian"],
    ["DWKmzfa"]),
   (["mahj", "mahajani"],
    ["DZNcBm"]),
   (["maka", "makasar"],
    ["EEQqy"]),
   (["mand", "mandaic"],
    ["DDgBbca"]),
   (["mani", "manichaean"],
    ["DXAmBmel"]),
   (["marc", "marchen"],
    ["EDSqBfcvbn"]),
   (["medf", "medefaidrin"],
    ["FISeDm"]),
   (["mend", "mendekikakui"],
    ["HCUyHocp"]),
   (["merc", "meroiticcursive"],
    ["DWPkxetcBt"]),
   (["mero", "meroitichieroglyphs"],
    ["DWOeBf"]),
   (["mlym", "malayalam"],
    ["EYambcbBybcbfepcz"]),
   (["modi"],
    ["EBHgCqlj"]),
   (["mong", "mongolian"],
    ["JCibcabtgDkhBqDSCbm"]),
   (["mroo", "mro"],
    ["FHEuBebjeb"]),
   (["mtei", "meeteimayek"],
    ["CMSmwHtBtcj"]),
   (["mult", "multani"],
    ["DZYugbabdbobk"]),
   (["mymr", "myanmar"],
    ["GBoGdCGAyBeDtBf"]),
   (["nagm", "nagmundari"],
    ["HBPoBp"]),
   (["nand", "nandinagari"],
    ["ECQyhcBtck"]),
   (["narb", "oldnortharabian"],
    ["DWYaBf"]),
   (["nbat", "nabataean"],
    ["DWEiBeii"]),
   (["newa"],
    ["EANoDnbe"]),
   (["nkoo", "nko"],
    ["CYiCgcc"]),
   (["nshu", "nushu"],
    ["FJIfaYVmPf"]),
   (["ogam", "ogham"],
    ["INoBc"]),
   (["olck", "olchiki"],
    ["KSuBv"]),
   (["orkh", "oldturkic"],
    ["DXMuCu"]),
   (["orya", "oriya"],
    ["EEjcbhcbcvbgbbbecicbcchcebbecr"]),
   (["osge", "osage"],
    ["DUSuBjeBj"]),
   (["osma", "osmanya"],
    ["DUQyBdcj"]),
   (["ougr", "olduyghur"],
    ["DYUqz"]),
   (["palm", "palmyrene"],
    ["DWDcBf"]),
   (["pauc", "paucinhau"],
    ["EDCaCe"]),
   (["perm", "oldpermic"],
    ["DUFgBq"]),
   (["phag", "phagspa"],
    ["CLSqCd"]),
   (["phli", "inscriptionalpahlavi"],
    ["DXGqsfh"]),
   (["phlp", "psalterpahlavi"],
    ["DXHwrhdmg"]),
   (["phnx", "phoenician"],
    ["DWJgBbda"]),
   (["plrd", "miao"],
    ["FIZoCweCehq"]),
   (["prti", "inscriptionalparthian"],
    ["DXFkvch"]),
   (["rjng", "rejang"],
    ["CMBwBjla"]),
   (["rohg", "hanifirohingya"],
    ["DXWqBnij"]),
   (["runr", "runic"],
    ["IOuCwdk"]),
   (["samr", "samaritan"],
    ["DAuBtco"]),
   (["sarb", "oldsoutharabian"],
    ["DWWuBf"]),
   (["saur", "saurashtra"],
    ["CLVcCril"]),
   (["sgnw", "signwriting"],
    ["GWTkZbpebo"]),
   (["shaw", "shavian"],
    ["DUPcBv"]),
   (["shrd", "sharada"],
    ["DZOyDr"]),
   (["sidd", "siddham"],
    ["EBCiCbcBl"]),
   (["sind", "khudawadi"],
    ["EAAqCgfj"]),
   (["sinh", "sinhala"],
    ["FCzcbrdxbibacgdaefbabhgjccDULgt"]),
   (["sogd", "sogdian"],
    ["DYSeBp"]),
   (["sogo", "oldsogdian"],
    ["DYQiBn"]),
   (["sora", "sorasompeng"],
    ["DZIeyhj"]),
   (["soyo", "soyombo"],
    ["ECXsDe"]),
   (["sund", "sundanese"],
    ["KKuClJwh"]),
   (["sylo", "sylotinagri"],
    ["CLQeBs"]),
   (["syrc", "syriac"],
    ["CQynbChccKmk"]),
   (["tagb", "tagbanwa"],
    ["IWembcbb"]),
   (["takr", "takri"],
    ["EBMeCfgj"]),
   (["tale", "taile"],
    ["JPgBdce"]),
   (["talu", "newtailue"],
    ["JRcBrezgkdb"]),
   (["taml", "tamil"],
    ["EJibbfdcbddbbabbdbdcdleedcbdcagaouEALhBxna"]),
   (["tang", "tangut"],
    ["FJIeaBfJBziBDnTsi"]),
   (["tavt", "taiviet"],
    ["CMOuCoye"]),
   (["telu", "telugu"],
    ["EOembcbwbpcibcbdhbbccacdcjhi"]),
   (["tfng", "tifinagh"],
    ["RCyCdhboa"]),
   (["tglg", "tagalog"],
    ["ISmvja"]),
   (["thaa", "thaana"],
    ["CVwBx"]),
   (["thai"],
    ["FHxCffBb"]),
   (["tibt", "tibetan"],
    ["FRsCtbBjeBmbBjbobgeb"]),
   (["tirh", "tirhuta"],
    ["EASmCtij"]),
   (["tnsa", "tangsa"],
    ["FHGqDabj"]),
   (["toto"],
    ["HATkBe"]),
   (["ugar", "ugaritic"],
    ["DUHcBdba"]),
   (["vaii", "vai"],
    ["CKMqLn"]),
   (["vith", "vithkuqi"],
    ["DVAekbobgbbbkbobgbb"]),
   (["wara", "warangciti"],
    ["ECHcDema"]),
   (["wcho", "wancho"],
    ["HAVgCffa"]),
   (["xpeo", "oldpersian"],
    ["DUIiBjen"]),
   (["xsux", "cuneiform"],
    ["EFBsBJlDyEgbelHn"]),
   (["yezi", "yezidi"],
    ["DYLkBpbccb"]),
   (["yiii", "yi"],
    ["CIPkBSudCc"]),
   (["zanb", "zanabazarsquare"],
    ["ECUqCt"]),
   (["zinh", "inherited", "qaai"],
    ["BDoEhKrbRkkBaaBCidGOxBeTtcbmbgeagadbHqClUebHmBgFTxdEdbCZUjpqnBLnaIsaGFaaCTCuBtcwUycrhcgBed",
     "BTLHiJf"]),
   (["zyyy", "common"],
    ["aCmBafBaBubobexaBfaRhBmfectEmajagabaYnagaoadaBgaGaaTwaEzbBVtaPpdLeaCGlcCtbHvbbaBVhanahdbfb",
     "ccaBDtlcDibkdkborBgClBlbccfbBabqBpceZmzkvBJrJwYdcBfbEaTsDpPmleebabyphedDnbdaDmbFrpBgBjCiCl",
     "BfDcBvaDkGlJToClBHSiBhDycGjjJkaGeaPfaobBEZqbIajwBibsbdFrabBfBafBakkaBtbCmgbgkeJyceBsdiDcmB",
     "zBsIuBaCSHwdHBwElCiJlkBmcCjdqibhBdeCiIftmtmDijyFfDgbCsbbcacbcdblbabgbCmbdchbgbBbbdbebadgbN",
     "bcLfcBxHThCpCyCiBBeBreDvmocobobBkkGrCezbbnBreihbofFyBLveqdmdEoeDqgleapleCdijgBniBdcbDaNbmn",
     "cmdihBtbgineihihFqbCcBljBSUXbaBeDr"])]

end Unicode
end Rulebook
