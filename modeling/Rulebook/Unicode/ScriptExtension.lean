/-!
The scripts that each character is used in.
-/

namespace Rulebook
namespace Unicode

/-- Scripts: their names, and the characters used in them in packed form. -/
def scriptExtensions : List (List String × List String) :=
  [(["adlm", "adlam"],
    ["CIhaBgaHAVfCxejeb"]),
   (["aghb", "caucasianalbanian"],
    ["DUXsBzla"]),
   (["ahom"],
    ["EBRcBacoew"]),
   (["arab", "arabic"],
    ["CHcebIgbBhDcBvJgBebbgCvbBcDNTwEkqRccCbhaBgpEiebFeBMhBbEIeBeEwcDGLsdbBabbbacabjbdbabagaeaba",
     "babcbbbacabababababbbacdbgbdbdbabjbqfcbebqCab"]),
   (["armi", "imperialaramaic"],
    ["DWBwvbi"]),
   (["armn", "armenian"],
    ["BZdBlcBxccDOZje"]),
   (["avst", "avestan"],
    ["DXCyCbdg"]),
   (["bali", "balinese"],
    ["KFwCydBu"]),
   (["bamu", "bamum"],
    ["CLCqDjCVCqVw"]),
   (["bass", "bassavah"],
    ["FHKiBdcf"]),
   (["batk", "batak"],
    ["KNgBzid"]),
   (["beng", "bengali"],
    ["DNtbrbBadbhcbcvbgbaddcicbcdiaebbecyHDhabacbbaiaiacaeaccCBAfa"]),
   (["bhks", "bhaiksuki"],
    ["EDOiibBsbnkBc"]),
   (["bopo", "bopomofo"],
    ["BCsbRBxcejbmkdcagaHnajBqEiBfCZLtbKwe"]),
   (["brah", "brahmi"],
    ["DZAeCzeBjja"]),
   (["brai", "braille"],
    ["PDwJv"]),
   (["bugi", "buginese"],
    ["JWaBbcbCCKta"]),
   (["buhd", "buhid"],
    ["IUnbjt"]),
   (["cakm", "chakma"],
    ["DTmjCKejDTFqCabr"]),
   (["cans", "canadianaboriginal"],
    ["HOyYpVoCrDTPqp"]),
   (["cari", "carian"],
    ["DTYmBw"]),
   (["cham"],
    ["CMJwCcjncjcd"]),
   (["cher", "cherokee"],
    ["HLgDhcfCFJeDb"]),
   (["chrs", "chorasmian"],
    ["DYXcBb"]),
   (["copt", "coptic", "qaac"],
    ["BMgnPJkElfgDCZwBb"]),
   (["cpmn", "cyprominoan"],
    ["DTImbRQkDu"]),
   (["cprt", "cypriot"],
    ["DTImceBsdiCOmfcabBrbbdaca"]),
   (["cyrl", "cyrillic"],
    ["BNkLrIVoiGgaCyaExaGApBfCpaBTLkDrBHEcbDHPgCjBha"]),
   (["deva", "devanagari"],
    ["DKqDecBqHIeBmbbBNaaBZFrjGkBfBREmj"]),
   (["diak", "divesakuru"],
    ["ECKugcachbbbBdbbcljj"]),
   (["dogr", "dogra"],
    ["DOmlCIDcjBQIoCh"]),
   (["dsrt", "deseret"],
    ["DUMaDb"]),
   (["dupl", "duployan"],
    ["GMDsEcfmdihjch"]),
   (["egyp", "egyptianhieroglyphs"],
    ["ELDgBQr"]),
   (["elba", "elbasan"],
    ["DUVwBn"]),
   (["elym", "elymaic"],
    ["DYYyw"]),
   (["ethi", "ethiopic"],
    ["GVgCubdcgbabdcBobdcBgbdcgbabdcobCebdcCocBfdzJVawjgbgbgbgbgbgbgbgBVKcfcfcfjgbgEPYfgbdbbbo"]),
   (["geor", "georgian"],
    ["GHsBlbafacBvEJwBqccGEaBlbafa"]),
   (["glag", "glagolitic"],
    ["BSmacaOYqDrSpaBTNfaEOTkgbqcgbbbe"]),
   (["gong", "gunjalagondi"],
    ["DOmbEANifbbbBkbbbfhj"]),
   (["gonm", "masaramgondi"],
    ["DOmbEAJqgbbbBrdabbbiij"]),
   (["goth", "gothic"],
    ["DUEaBa"]),
   (["gran", "grantha"],
    ["DNtbrbYqnGKaabbBecdbBNaaDNRjdbhcbcvbgbbbebjcbcccagafgcgdeERrbba"]),
   (["grek", "greek"],
    ["BGcacaBqdbccdbaeababcbabtbCkopJNqeByeeeDgcMgvcfcBlcfchbabababBecCabobncfbsccbiLjaCAJeaBGNi",
     "DaraDAXrCr"]),
   (["gujr", "gujarati"],
    ["DNtbrbKxcbibcbvbgbbbecjbcbccapdclhgCHNsj"]),
   (["guru", "gurmukhi"],
    ["DNtbrbFzcbfebcvbgbbbbbbcabeebccdahdbahqCHSzj"]),
   (["hang", "hangul"],
    ["GLkJvLJlcejbmocgaHnaCbDpEjBeCnBeBTAnBcYtQNrmweBwOMzbKweCgBedfcfcfcc"]),
   (["hani", "han"],
    ["RPwzbDkmIfBrcbmbmbmcagiHfaFspBgBjCiBnCeBwplBzaDkykeDsBebJTnCmBFBjCQyhBFBcObcEbBHrbKweBQPob",
     "mbBLRarLRybFEsCLFbBgGDtgIncINpoLBkEPjUvCFyHHyfGFf"]),
   (["hano", "hanunoo"],
    ["ITsw"]),
   (["hatr", "hatran"],
    ["DWIasbbfe"]),
   (["hebr", "hebrew"],
    ["CCvCciBaefDOVwzbebabbbbbj"]),
   (["hira", "hiragana"],
    ["SErcejbmqfbaebdDhchDmbCZTgbKwekaBtbCOUrLasaBdcYMva"]),
   (["hluw", "anatolianhieroglyphs"],
    ["ESSeWk"]),
   (["hmng", "pahawhhmong"],
    ["FHMeCrkjbgbufs"]),
   (["hmnp", "nyiakengpuachuehmong"],
    ["HAEaBsdncjeb"]),
   (["hung", "oldhungarian"],
    ["DXRsBynByhf"]),
   (["ital", "olditalic"],
    ["DUCeBjjc"]),
   (["java", "javanese"],
    ["CMEyCzbkeb"]),
   (["kali", "kayahli"],
    ["CMAaBv"]),
   (["kana", "katakana"],
    ["SErcejbmqfbaebDnddDrJgpIaBubDjCYWbbKwCkCOUadbgbbbaLbcByaod"]),
   (["kawi"],
    ["EERwqbBodBb"]),
   (["khar", "kharoshthi"],
    ["DWTcdbbfhbcbBcccejhi"]),
   (["khmr", "khmer"],
    ["IXkDpcjgjSsBf"]),
   (["khoj", "khojki"],
    ["EDijCHOijBOBmrbBu"]),
   (["kits", "khitansmallscript"],
    ["FJIiaKGxSb"]),
   (["knda", "kannada"],
    ["DNtbrbBEombcbwbjbecibcbdhbgbbdcjbcGAeabahaxabaCASxf"]),
   (["kthi", "kaithi"],
    ["DOojCIDcjBNMsCoka"]),
   (["lana", "taitham"],
    ["JXgCkbBcckgjgn"]),
   (["laoo", "lao"],
    ["FMvbbabebxbabwcebabgbjcd"]),
   (["latn", "latin"],
    ["CnzgzBvapafwbBebRgBneEwmKrbBVebCXkaEOiBlgBwfdfmbCrCnJvLraCnanaqmDfaCfbgaBbarBoECtBfBUKehBa",
     "DxdClfbbabeynLqaTtBqbibdBEDqgBOkzgzDCffbBpbiDDNpBegf"]),
   (["lepc", "lepcha"],
    ["KPsCddodc"]),
   (["limb", "limbu"],
    ["DOnaFXqBebleleadl"]),
   (["lina", "lineara"],
    ["DTItBsBVgLyjvkh"]),
   (["linb", "linearb"],
    ["DSYqlbzbsbbbocnBiEsfceBsdi"]),
   (["lisu"],
    ["CKKuBvBUMaa"]),
   (["lyci", "lycian"],
    ["DTXgBc"]),
   (["lydi", "lydian"],
    ["DWKmzfa"]),
   (["mahj", "mahajani"],
    ["DOmlCIDcjBNUsBm"]),
   (["maka", "makasar"],
    ["EEQqy"]),
   (["mand", "mandaic"],
    ["CJoaTrBbca"]),
   (["mani", "manichaean"],
    ["CJoaDUQxBmel"]),
   (["marc", "marchen"],
    ["EDSqBfcvbn"]),
   (["medf", "medefaidrin"],
    ["FISeDm"]),
   (["mend", "mendekikakui"],
    ["HCUyHocp"]),
   (["merc", "meroiticcursive"],
    ["DWPkxetcBt"]),
   (["mero", "meroitichieroglyphs"],
    ["DWOeBf"]),
   (["mlym", "malayalam"],
    ["DNtbrbBJmmbcbBybcbfepczFVeaCATxc"]),
   (["modi"],
    ["CLSajBPOwCqlj"]),
   (["mong", "mongolian"],
    ["JCizgDkhBqCWaaDPGam"]),
   (["mroo", "mro"],
    ["FHEuBebjeb"]),
   (["mtei", "meeteimayek"],
    ["CMSmwHtBtcj"]),
   (["mult", "multani"],
    ["DYkjDWAagbabdbobk"]),
   (["mymr", "myanmar"],
    ["GBoGdCFUcaGvBeDtBf"]),
   (["nagm", "nagmundari"],
    ["HBPoBp"]),
   (["nand", "nandinagari"],
    ["DOmbBImjGBhaiahaCASrfBQYshcBtck"]),
   (["narb", "oldnortharabian"],
    ["DWYaBf"]),
   (["nbat", "nabataean"],
    ["DWEiBeii"]),
   (["newa"],
    ["EANoDnbe"]),
   (["nkoo", "nko"],
    ["CHoaoadaQaCgccDOWsb"]),
   (["nshu", "nushu"],
    ["FJIfaYVmPf"]),
   (["ogam", "ogham"],
    ["INoBc"]),
   (["olck", "olchiki"],
    ["KSuBv"]),
   (["orkh", "oldturkic"],
    ["DXMuCu"]),
   (["orya", "oriya"],
    ["DNtbrbPvcbhcbcvbgbbbecicbcchcebbecrGPeaxa"]),
   (["osge", "osage"],
    ["DUSuBjeBj"]),
   (["osma", "osmanya"],
    ["DUQyBdcj"]),
   (["ougr", "olduyghur"],
    ["CJoaDUSvaBSfz"]),
   (["palm", "palmyrene"],
    ["DWDcBf"]),
   (["pauc", "paucinhau"],
    ["EDCaCe"]),
   (["perm", "oldpermic"],
    ["BSlaDSMuBq"]),
   (["phag", "phagspa"],
    ["JCkbbaCCQcCd"]),
   (["phli", "inscriptionalpahlavi"],
    ["DXGqsfh"]),
   (["phlp", "psalterpahlavi"],
    ["CJoaDUYhrhdmg"]),
   (["phnx", "phoenician"],
    ["DWJgBbda"]),
   (["plrd", "miao"],
    ["FIZoCweCehq"]),
   (["prti", "inscriptionalparthian"],
    ["DXFkvch"]),
   (["rjng", "rejang"],
    ["CMBwBjla"]),
   (["rohg", "hanifirohingya"],
    ["CHoaoadaBgaFraDVHjBnij"]),
   (["runr", "runic"],
    ["IOuCwdk"]),
   (["samr", "samaritan"],
    ["DAuBtco"]),
   (["sarb", "oldsoutharabian"],
    ["DWWuBf"]),
   (["saur", "saurashtra"],
    ["CLVcCril"]),
   (["sgnw", "signwriting"],
    ["GWTkZbpebo"]),
   (["shaw", "shavian"],
    ["DUPcBv"]),
   (["shrd", "sharada"],
    ["DNtaHKfabacbcaDOQpDr"]),
   (["sidd", "siddham"],
    ["EBCiCbcBl"]),
   (["sind", "khudawadi"],
    ["DOmbCIDmjBOIgCgfj"]),
   (["sinh", "sinhala"],
    ["DOmbBOlcbrdxbibacgdaefbabhgjccDULgt"]),
   (["sogd", "sogdian"],
    ["CJoaDWIpBp"]),
   (["sogo", "oldsogdian"],
    ["DYQiBn"]),
   (["sora", "sorasompeng"],
    ["DZIeyhj"]),
   (["soyo", "soyombo"],
    ["ECXsDe"]),
   (["sund", "sundanese"],
    ["KKuClJwh"]),
   (["sylo", "sylotinagri"],
    ["DOmbEyjCHWiBs"]),
   (["syrc", "syriac"],
    ["CHoaobcaBgakkBaaFnnbChccKmkIEfaba"]),
   (["tagb", "tagbanwa"],
    ["IUnbBpmbcbb"]),
   (["takr", "takri"],
    ["DOmbCIDmjBPTuCfgj"]),
   (["tale", "taile"],
    ["GEajDKwBdce"]),
   (["talu", "newtailue"],
    ["JRcBrezgkdb"]),
   (["taml", "tamil"],
    ["DNtbrbUubbfdcbddbbabbdbdcdleedcbdcagaouGKdaCBBkaBOEfabaCdbETfBxna"]),
   (["tang", "tangut"],
    ["FJIeaBfJBziBDnTsi"]),
   (["tavt", "taiviet"],
    ["CMOuCoye"]),
   (["telu", "telugu"],
    ["DNtbrbZqmbcbwbpcibcbdhbbccacdcjhiGFaaxa"]),
   (["tfng", "tifinagh"],
    ["RCyCdhboa"]),
   (["tglg", "tagalog"],
    ["ISmvjavb"]),
   (["thaa", "thaana"],
    ["CHoaobcaCmjKsBxDPGqaka"]),
   (["thai"],
    ["FHxCffBb"]),
   (["tibt", "tibetan"],
    ["FRsCtbBjeBmbBjbobgeb"]),
   (["tirh", "tirhuta"],
    ["DNtbrbHKmaCASzjBPAcCtij"]),
   (["tnsa", "tangsa"],
    ["FHGqDabj"]),
   (["toto"],
    ["HATkBe"]),
   (["ugar", "ugaritic"],
    ["DUHcBdba"]),
   (["vaii", "vai"],
    ["CKMqLn"]),
   (["vith", "vithkuqi"],
    ["DVAekbobgbbbkbobgbb"]),
   (["wara", "warangciti"],
    ["ECHcDema"]),
   (["wcho", "wancho"],
    ["HAVgCffa"]),
   (["xpeo", "oldpersian"],
    ["DUIiBjen"]),
   (["xsux", "cuneiform"],
    ["EFBsBJlDyEgbelHn"]),
   (["yezi", "yezidi"],
    ["CHoaoadaCmjDWAgBpbccb"]),
   (["yiii", "yi"],
    ["SErbfjchIpaBQBcBSudCcBIIce"]),
   (["zanb", "zanabazarsquare"],
    ["ECUqCt"]),
   (["zinh", "inherited", "qaai"],
    ["BDoCnbbbBcCGmbGOxBeBDbCbbabeUebHmBfDFSqpqnBLnaCZQoBtcwUycrhcgBedBTLHiJf"]),
   (["zyyy", "common"],
    ["aCmBafBaBubobexaBfaRhBmfectEmajagabaYnaIhaTwaCAuaPpdCRqcDLilcBgbCabkdkborBgClBlbccfbBabqBp",
     "ceZmzkvBJrJwYdcBfbEaTsCobzPmleadananavaUjxBfaBxomdGfjfDrBfaJToClBHSqzDycBLoaobBFHsjwuclbsb",
     "dFrabBfBafBafExgbgkePmmBzBsCZTrElCiJlkBmcCjdqibhBdeCiIftmtmDiBbgFfDgbCsbbcacbcdblbabgbCmbd",
     "chbgbBbbdbebadgbNbcLfcBxHThCpCyCiBBeBreDvmocobobBkkGrCezbbnBreixfFyBLveqdmdEoeDqgleapleCdi",
     "jgBniBdcbDaNbmncmdihBtbgineihihFqbCcBljBSUXbaBeDr"])]

end Unicode
end Rulebook
