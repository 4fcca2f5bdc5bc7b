/-!
Properties that a character has or lacks.
-/

namespace Rulebook
namespace Unicode

def properties : List (List String × List String) :=
  [(["alpha", "alphabetic"],
    ["CnzgzBvakaeafwbBebRpeloehabaDiaBqebbcdbagabcbabtbDebFiiGjbBlcagBoBnnbabbbbbaiBaedBdkfCdbgo",
     "DxbheheckccaqBvnDwyBgjbeafxcstyhkfxbfrBpkldggCxbpbceonsbhcbcvbgbadddhcbcbbaiaebbembkaecbfe",
     "bcvbgbbbbbbeeebcbeahdbarflcbibcbvbgbbbedibcbbdapdvdecbhcbcvbgbbbedhcbcbjbebbenaqbbfdcbddbb",
     "abbdbdcdleedcbcdagaBombcbwbpdhbcbcibbccacdBcdbhbcbwbjbedhbcbcibgbbdncmmbcbBochbcbcbafdhewf",
     "bcbrdxbibacgifbabhsbnCffggaBzbbabebxbabsbccebagaodBgaClhbBjesepbBjCpCcbaceqClkdcBlbafacBqb",
     "MubdcgbabdcBobdcBgbdcgbabdcobCebdcCoBlpqDhcfdXvcqbzfCwdkhtlumtmmbcbbmBzcsoaeaCpDkhBqfCrkBe",
     "bleixBdcelBrezCcBbeCkctByaxblcBxBzbobhBzBpcdkBrbkoCcwckBjcihBqccBpdbfbbdafHjBnnlKrcfcBlcfc",
     "hbabababBecCabgbadcbgddcfemfcbgEmanaqmDxaeacjbadegabababdbkcdfeearBoBFhBzCRuIugddbmBlbafac",
     "CdhaqwjgbgbgbgbgbgbgbgbBfBvaSbcziheceeDhgcbDlbdfBqbDprBfBwpTsJTnCmBGUeCpBtcKidpkbuBufhdEiB",
     "nicDycClfbbabeytbBgyBzmCpbaBsfdabckBgfBinBcdByblpaqpkebCcjnswdCqbabayccpcdlfcfcfjgbgbBqbng",
     "EsvQNrmweBwMNcObcEbBmgmeflbmbebabbbbbEdBhNysClcCbBolEmebFeBkzgzlDkdfcfcfccBjlbzbsbbbocnBiE",
     "sCrCaKhBcdBwBvBfnBdfBqfBdcBjehbeBqGbsBjeBjeBniBzmkbobgbbbkbobgbbCpLyjvkhyfbBpbiCrfcabBrbbd",
     "acwkwjBeCnsbbkvkzCsCdgbCmdbbfhbcbBcBqBcdBcBjhbBbBbCbkvksnrEgCuCdBynBynBnNgBpbbdbDaBckaivBq",
     "rBuuBbwjCrBrekCejanyxByrdiBidajClbdjbkabaBjrbBhcagdCkgbabdbobjhCexdbhcbcvbgbbbedhcbcbdagaf",
     "gGaCnbcbducBeCncbbaHcCbcgzfBiCkbadaChCbcaCtBacnvgHdCeDzClBfhcachbbbBdbbcbcdDphcBtcfbabbBbB",
     "ycjrCtfasCuKdibBsbgbaBxBdcvbnCvgbbbBrdabbbcbacbyfbbbBkbbbdbaMpwjqbBodcEhaDbBJlDyEgrHnDXkDs",
     "pBPfrfFYvWkMUbVwhBerDarBdsBvqdBfufsBAmClEyCweCehqCmbbamboJBziBVpBqiNFrdbgbbbLepaBdccaodiPf",
     "DKuEcfmdihjeaIWfDgbCsbbcacbcdblbabgbCmbdchbgbBbbdbebadgbNbcybybBebybBebybBebybBebybhCSyBeg",
     "fIfgbqcgbbbefCjBhaEiBskgqaMjBdsBrSqBbBDcgbdbbbobHoChCpdadaBUidbBabbbacabjbdbabagaeabababcb",
     "bbacabababababbbacdbgbdbdbabjbqfcbebqYezgzgzFMkCLFbBgGDtgIncINpoLBkEPjUvCFyHHyfGFf"]),
   (["ahex", "asciihexdigit"],
    ["BwjhfBaf"]),
   (["bidic", "bidicontrol"],
    ["CIeaJVlbBaeCdd"]),
   (["bidim", "bidimirrored"],
    ["BobsabaBcabaBdabaBtapaFMsdCUnbDQqbkbCcbobGvaHkddfdadbddbdbabaeifabrfdjbbabhcBecdfajbcsfbje",
     "cbexcpidubhbBPtnCwacdbbbcfdfcdnPnvcfbniahfdaeebbceeabccbkfcbmsbdcabacabdfbgcyblbedbbcbeBqc",
     "hbBnfabadefceadebaJwaTvddbbbobcjBrhQljchDACrffbGgbsabaBcabaBdababbbbDDPnaCfaCfaCfaCfa"]),
   (["ci", "caseignorable"],
    ["BnagalaBjabaCtaeabaeacbTjHjebeajbbaJrgHzafaBxBsbabbbbbaBsalfkkbaBjakuqaDxhbjbdBhabaBeBaDnk",
     "CgkeacayxBrcBsahbghBpCfCdabaeheadgkbnapaCgaediaubBaacbCfaebebccdaBebdalbCfaeebbeaubwfbaCga",
     "cabdiahblbBeaCjamaByadaCdabcfcbdhblbBdaCgacagafbubBcbCfbediaubBdaCuahcbaDmacgliDuacijabgCv",
     "bBbababaCdnbebbfkbBjjaDydbfbbcbzbecqdnacbgapaDqaXkcBKkcBdbBebBebCmbbgiackdafaBteBzaCnbBiaE",
     "ocebjagcIlbcaCgabgbabachgjcaBnaiBeBxdBwabebafaBoimbBgdcbbcCeabbdabcCghcbCmfDecbmbgeagadbBy",
     "CknaBiDwRdabclcncncnbmeibkacaceBxebjbanaqmBzBgEJrbEjcEvapaDsBfBvaSbaBkddefaDpfDpcBQBuaBWcf",
     "KkaDudbjbaBcdDcboBhDaaxcDzcdbiadaeazbfaFvbBarnaBmhzkBucBwacdcbravbCofcbcbmaiaBjalaBzabccbf",
     "bbaBbaobfbbaDwejcEracaeaBDZsaFrqWbpdampBiacaGnahagalaBjabaBvaBtbCpavcTtaIsaFteBNpfbBpbiWkc",
     "bbfdBoceaGjbWbdOxbDccCskBxdEtaCcoBpacbkcBxdcbcaeakaBycBkebhCkambCaikdcaDrccabbgacaGbadhvbC",
     "fbdaBlgdeHnhccbaxaDgfbaebbbJedgbbbBbbDhhcabbEcabacfbaDxccdbeJzibbJwbbaeaFodcbeaBgjBofcdiaj",
     "fccBumbbPqgbfbaDevcgbbbbEsfdabbbgbaCubdabaNjblbCaefabaHYbqgoURqeChgjdBNvaClqCmbbbYGpdbgbbE",
     "UgbbdGYuBtcwUycjpcgBedFscCYdCceBxiaoaweboCAigbqcgbbbefCjBhaGenOeaCjdTneBMegEfhEBfeBSXXpaBe",
     "DrEyJf"]),
   (["cased"],
    ["CnzgzBvakaeafwbBebHmbdeHzbBjhbBeeDsaBqdcbcdbagabcbabtbDebFiiGjbBljBoEFfBlbafacBqbdZwDhcfDF",
     "uihBqccCmHjCmKrcfcBlcfchbabababBecCabgbadcbgddcfemfcbgEmanaqmDxaeacjbadegabababdbfeacdfeea",
     "rBfdbBFlBzCRuIugddbmBlbafaBTWcBtsBdFcDxddbCgfbbabeyebcBFpBqbngDbBEAigmeBNtzgzBTtDbDsBjeBjE",
     "mkbobgbbbkbobgbbRjaccbBpbiBUzBynByEKzClBGIqClBMLkDgbCsbbcacbcdblbabgbCmbdchbgbBbbdbebadgbN",
     "bcybybBebybBebybBebybBebybhCSyjbtgfKbCjDGkCpDAazgzgz"]),
   (["cwcf", "changeswhencasefolded"],
    ["CnzDmakwbhBgabababababababababababababababababababababababababababacababababababababbbabab",
     "ababababababababababababababababababababbbabababbbabbbccdbbbcdbbbbababbbacabbbcbabbdahbbbb",
     "bbabababababababacababababababababacbbabcbabababababababababababababababababababababababab",
     "ababababahbbbcabdbabababaJmaBqabadaiagabcbabbbqbiwamcdbbababababababababababababbcbbabbcBy",
     "Bwababababababababababababababababajababababababababababababababababababababababababababab",
     "bbabababababacabababababababababababababababababababababababababababababababababababababab",
     "abababababababababacBlBwaEFgBlbafaBFefDFuihBqccMiababababababababababababababababababababa",
     "bababababababababababababababababababababababababababababababababababababababababababababa",
     "bababababababababafbcababababababababababababababababababababababababababababababababababa",
     "babababababababababababababajhifkhihiflabababaihqBvcccffccfldmefccfLladbgaBtptaBFmzCSuBvBw",
     "abccabababdbacaicbabababababababababababababababababababababababababababababababababababab",
     "ababababababababababababaiabaeaBTYjababababababababababababababababababababababatababababa",
     "bababababababababaFfababababababadabababababababababababababababababababababababababababab",
     "ababakababbbabababaeabacabadababababababababababebebabababababababdbagafabaBcaBIgDbBEAigme",
     "BNtzBUzBnFgBjGakbobgbbCQcByENlBfBGJwBfBULkBh"]),
   (["cwcm", "changeswhencasemapped"],
    ["CnzgzCgakwbBebClbDfbmbncncbbaeDobrgBabbbabbdbbabbbecabbcahacabbdffakbGkaBqdcbdcbagabcbabtb",
     "BudBgbebFciGjbBlkBmEFgBlbafacBqccZwDhcfDFuihBqccHdadaqaEjFzcabEncfcBlcfchbabababBecCabgbad",
     "cbgddcfemfcbgLladbgaBbarBfdbBFlBzCRuEibbbbhDxhddbmBlbafaBTWcBtsBbFencCjjodccebybBafbedBbbB",
     "HcaBcDbBEAigmeBNtzgzBTtDbDsBjeBjEmkbobgbbbkbobgbbCOpBynByEKzClBGIqClBUKeCp"]),
   (["cwl", "changeswhenlowercased"],
    ["CnzDxwbgBhabababababababababababababababababababababababababababacabababababababacabababab",
     "abababababababababababababababababababbbabadbbabbbccdbbbcdbbbbababbbacabbbcbabbdahbbbbbbab",
     "ababababababacababababababababacbbabcbabababababababababababababababababababababababababab",
     "ababahbbbcabdbabababaLdabadaiagabcbabbbqbiBjaiabababababababababababafacabbcByBwababababab",
     "abababababababababababajabababababababababababababababababababababababababababbbababababab",
     "acabababababababababababababababababababababababababababababababababababababababababababab",
     "abababacBlEHdBlbafaBBuDhDGsBqccMiababababababababababababababababababababababababababababa",
     "bababababababababababababababababababababababababababababababababababababababababababababa",
     "bajabababababababababababababababababababababababababababababababababababababababababababa",
     "bababababajhifkhihiflabababaihyhihihieleldmeleLladbgaBtptaBFmzCSuBvBwabccabababdbacaicbaba",
     "bababababababababababababababababababababababababababababababababababababababababababababa",
     "babaiabaeaBTYjababababababababababababababababababababababatabababababababababababababaFfa",
     "babababababadababababababababababababababababababababababababababababababakababbbabababaea",
     "bacabadababababababababababebebabababababababdbagafabaBcaBHAhzBUzBnFgBjGakbobgbbCQcByENlBf",
     "BGJwBfBULkBh"]),
   (["cwt", "changeswhentitlecased"],
    ["DtzCgaBpxbhbabababababababababababababababababababababababababababacabababababababbbababab",
     "abababababababababababababababababababacababccabacadafacadbdacababacaeacadabacadabaeabbbbb",
     "ababababababababbbababababababababcbabadabababababababababababababababababababadababababab",
     "abababaiacbbaeababababfbbbabbdbbabbbecabbcahacabbdffakbGkaBrabadadcsaBbBibbdcbabababababab",
     "abababababebacacaCaBvbababababababababababababababababajababababababababababababababababab",
     "abababababababababacababababababbbabababababababababababababababababababababababababababab",
     "abababababababababababababababababababaBxBmFMefDFuiJgadaqaEkababababababababababababababab",
     "ababababababababababababababababababababababababababababababababababababababababababababab",
     "ababababababababababababababgfabababababababababababababababababababababababababababababab",
     "abababababababababababababababababiifkhihifkhihinchihihiebbgadcbbidcbihkcbbNeaBhpeaBGlzCTq",
     "Bvbadbbababagacakababababababababababababababababababababababababababababababababababababa",
     "bababababababababababababaiabaeamBlbafaBTWdababababababababababababababababababababababata",
     "bababababababababababababaFfababababababadabababababababababababababababababababababababab",
     "ababababababakabacababababaeaeabbcabababababababababalabababababababaeabagafabaBcaBHcaBcDb",
     "BEAigmeBOzzBVhBnFgBjFzkbobgbbCRbByEMfBfBGJwBfBULmBh"]),
   (["cwu", "changeswhenuppercased"],
    ["DtzCgaBpxbhbabababababababababababababababababababababababababababacabababababababbbababab",
     "abababababababababababababababababababacababccabacadafacadbdacababacaeacadabacadabafbbbbbb",
     "abababababababbbababababababababbbbbadabababababababababababababababababababadabababababab",
     "ababaiacbbaeababababfbbbabbdbbabbbecabbcahacabbdffakbGkaBrabadadcsaBbBibbdcbababababababab",
     "ababababebacacaCaBvbababababababababababababababababajabababababababababababababababababab",
     "ababababababababacababababababbbababababababababababababababababababababababababababababab",
     "ababababababababababababababababababaBxBmEHcBqccBDgfDFuiJgadaqaEkababababababababababababa",
     "bababababababababababababababababababababababababababababababababababababababababababababa",
     "bababababababababababababababababgfabababababababababababababababababababababababababababa",
     "babababababababababababababababababababiifkhihifkhihincCabbeabadcbbeaddcbihkcbbeaMzaBhpeaB",
     "GlzCTqBvbadbbababagacakabababababababababababababababababababababababababababababababababa",
     "babababababababababababababababaiabaeamBlbafaBTWdababababababababababababababababababababa",
     "babatabababababababababababababaFfababababababadababababababababababababababababababababab",
     "abababababababababakabacababababaeaeabbcabababababababababalabababababababaeabagafabaBcaBH",
     "caBcDbBEAigmeBOzzBVhBnFgBjFzkbobgbbCRbByEMfBfBGJwBfBULmBh"]),
   (["dash"],
    ["BtaCAuaBzaFKjaBNpaDBdfCjaBnapaPaaEOiacaBfbeaBcaReataEhaCZWabBlakaGnaFXva"]),
   (["di", "defaultignorablecodepoint"],
    ["GraZxaBBoaEGwbCKhbDheDApeBaeBxpGKyaCZMppJfaGeaDbiCTLndHWxhBTKZlGBn"]),
   (["dep", "deprecated"],
    ["MraBYvaDKtabaDCjbDIjfBAvbBZRYka"]),
   (["dia", "diacritic"],
    ["DqabaCtagaeacbTjGcbhffrbeajbJteIbaCdqbBababbbaFehebFebebdcCpBaDnkCgkBibEwhBpjqBbCjaqaddBca",
     "CwaqaEgaqaEgaqaBvcCiaqahaEpaEgaqaEgaqaEfbqaEuaEufbaEdaneCxbBbababaebCocbbCkaEiabbBobeezgba",
     "kbBBdcBKmbGxkjaNjcMbhcaBwockEaapaBmiCcbFibCmfDeyeagaccByCkDllBlkRdabclcncncnbEXkcMfaTmfEbd",
     "DraBSMkambbaBcbDeboBhDycEfbHuaBbrCfdBkaDramaBkaFtcCndBzaDwejcEybBDZsaBDppKkabaBvaBtbCpaBDk",
     "aBTnfbBpbiBFebVzfSbcCskBxdHkaBpaCubEqbCkaCyajcEabGwbDdaqaygdeHxadaEtbJrbEwaEobElaKjbJybeaG",
     "aaDfasaDdaQfaJyabbDdaIPjoURqeChgBQuqDcbYGcdbgbbLThBtcwUycdfihcgBedFMwCjHmgOlaCjdCFwgEfcbc"]),
   (["emoji"],
    ["BjagafjEhaeaLYramaIiawaDmfpbOdbmaGkazkecHraIxbkajaCgdbejacacbcaeacabbcadadbicfabafllbcabbb",
     "asacbsfbabbdbfacbeblbfbcafbbabbubffbdcaeacacfbacababagadagakbpacaeabaecbalbBwcjaoaoaOibRvc",
     "tbBzaeaBVuamaXdabaGMRqaHuaGebmboacjCxzbbxauacivbGsBhcEhcbbccDeccbKcbCklfbxhbchmacdcaebnbca",
     "ibjafcmciccabaeagadagDhBwCrfhccejdabbdacjItleaKxBubjbHcEimdihBtbgineihi"]),
   (["ecomp", "emojicomponent"],
    ["BjagafjMBjaIfaDFTraDOIwzTneCEadBSVUqDr"]),
   (["emod", "emojimodifier"],
    ["HHIxe"]),
   (["ebase", "emojimodifierbase"],
    ["OLhaIlaqdGSJvaCiccaccEnbckvsdaecbchabayaHtbeavaebGscdeDfaqcjalaWdacaihgajjccCeaCjbbbbarcbm",
     "IvcBqi"]),
   (["epres", "emojipresentation"],
    ["NHqbHxddacaUbbvbBylBratanaibrbfbiafavahbbaeacahaebBcaBjabaecbaCjcyaoaBHbbBzaeaGPLeaHuaHiac",
     "jCxzbayauacebcvbGsBgmibCrbvmBqeemqdadCsbabHecCkndbxsaBabnaDiDgBwCrgadcccedlbhiItleaKxBubjb",
     "HcEimdihBtbgineihi"]),
   (["extpict", "extendedpictographic"],
    ["GnaeaLYramaIiawaDmfpbOdbmaDraCsazkecHraIxbkajaCgdbfblbEjkEnckbabagadagakbpacaeabaecbaleBtc",
     "jaoaoaOibRvctbBzaeaBVuamaXdabaGMRmJvncBfaCifmboacjsCeBbokauacibdjQrfMfiKfBwExEmlDhBqmdCehk",
     "fBohBeDdmBubjbQyJwBNh"]),
   (["ext", "extender"],
    ["HbaUqbBHuaQzaBHaaBCyaExaDNfaCeaXnaPiaCqaHKjaBreDzbDpcBQBuaCGsaBLaawaFhaEeavbBFZvaDBkbEMsaX",
     "scBVjaBEOfbBTkbbaBQYabDBac"]),
   (["grbase", "graphemebase"],
    ["BgDqBhmbWvEihcfegbabtbIphGjbBlcBxccBuabacacajBaefrjlabBtvpbDwiagbcaeBfcabBdBdDklaoBqjgdxea",
     "jadahobyfabkfBerBpCfCcbabdidbchjcBcbbbhcbcvbgbadddabbgbcbbanbbcexfabfebcvbgbbbbbbecydbahjc",
     "cbamabibcbvbgbbbeddiabbdapbelhaibbhcbcvbgbbbedacagbcbpbbcerlabfdcbddbbabbdbdcdlfabbdcbcdav",
     "ugcbhbcbwbpdaddtccacbejhjbkbcbwbjbedbbbbbcbbbrbbbejbcokbcbBocabbfcbcbbecbjezcbbrdxbibacgjb",
     "gghjccmBvbblhimBlbbabebxbabjbbjacebajjcdBgxcBabababnbBjsafaceBxhbfbmBlBseagacbcycddpembbcf",
     "bobBnbafacOmbdcgbabdcBobdcBgbdcgbabdcobCebdcCofBcdzgDhcfcZsdDkhrdajsccjrombcpBzcahhbblidjg",
     "jgkfjgDkhecBhbafCrkBeedccebbfhadBpcelBrezgkdCecbdCdbajabbifnjgjgnDiBvhabebjdBajkdBfebcadCd",
     "baccbadbiBvibfodChhBqcklanahdbfbccafHjCmKrcfcBlcfchbabababBecCabobncfbsccbibkfxhBwqbcBabmd",
     "BgClFjeZmzkvCRrcBfbNfdbfBsbafacCdhbpwjgbgbgbgbgbgbgbgBhDpBizbDkmIfBaleBpgpbDheDwfBqbDpbDfm",
     "BubBRIqdCcjNjuBueakBfcDbcfiHufbbabeypbcbdbyceejgCdiCpklymbBliylblBdgBvbbebcpbkegbybBogbcbl",
     "cbhbacjcBfbBybadbcecabayqchlfcfcfjgbgbCheEmbbbddjgQNrmweBwMNcObcEbBmgmefabxbebabbbbbEuqRcc",
     "CbhaBgpqjwBibsbdeebFeeGacBedfcfcfccdgbgnbclbzbsbbbocnBiEsfceBsdDjbmdaBvBsFbBcdBwqBaeBjjBdf",
     "BlkBdbBkenBqGbcjgBjeBjeBniBzllbobgbbbkbobgbbCpLyjvkhyfbBpbiCrfcabBrbbdacwbCtiiBwsbbfBgdBaf",
     "aCmCdetcBupdbcbBckihihClBgBkgljCbdBccBafzhdmgDcCuCdBynByhBpmjLiBebBpdacbDaBnivliwredBmBbuw",
     "jabCbpgeBdbbcamBwebcbbdoyhjjBjfajriBibclBzjjebbpbtlrbBbdbbacfbbClgbabdbobkgBubcnjibbhcbcvb",
     "gbbbedababdcbcccamgGaCdibdabubabcBeBvbbgabbbacacdijGkBubbgdcacBaBkByibbacdljgmtBqbabbgabbg",
     "jCcBafbeajwHdBujacaDwDemhcachbbbxbebbeabdbcjjCshcBpidbdBbakBngbehjagbdBtnacinCuhjJmibBloab",
     "fkBcdBfzahacaCxgbbbBlvajjgfbbbBkebbabahjLyscdjobBjibbabwDiapBxnBJmDyEgbelHnDXkDunBPfrfFYvW",
     "kMUbVwhBebjeDcbjgBdhakBvhokjbgbufsBAmDmDxCwfCdlmCmdmboJBziBVpBqiNFrdbgbbbLepaBdccaodiPfDKu",
     "EcfmdihjcacaHCaElCiJlkBmcChbaddvbhBdeCivCndaEstmtmDijyFfDgbCsbbcacbcdblbabgbCmbdchbgbBbbdb",
     "ebadgbNbcLfcVpCddByhbnbgBRwBegfKbCjFqBskgcjebMiBdsBrejfaRwBbejBCogbdbbbobHociBwCphaejebBEf",
     "CpCyCiHmdbBabbbacabjbdbabagaeabababcbbbacabababababbbacdbgbdbdbabjbqfcbebqCabKkBreDvmocobo",
     "bBkkGrCeBcnBreihbofFyBLveqdmdEoeDqgleapleCdijgBniBdcbDaNbmncmdihBtbgineihihFqbCcBljBNqCLFb",
     "BgGDtgIncINpoLBkEPjUvCFyHHyfGFf"]),
   (["grext", "graphemeextend"],
    ["BDoEhKpgKdBsbabbbbbaCukBwuqaDxgcfcbbdBjaBeBaDnkCgijaydbibcbeBrcCihBqxbBfCdabaeheadgkbBdaCg",
     "abacdiajakbBaacbCfaebebccdaBebdalbCfaeebbeaubwfbaCgabbbdiahckbBeaChabamajaBoadaCdabcfcbdhb",
     "lbBdaCgacacadafbhblbBcbCfbbacdiajakbBdaCuaeaccbaiaDdacgmhDuacilgCvbBbababaCdnbebbfkbBjjaDy",
     "dbfbbcbzbecqdnacbgapaBBbcBKkcBdbBebBebCmbbgiackjaBtcbaEnbBiaEocebjagcIlbcaCgabgbabachgjcaB",
     "wBeBxdBwgbafaBoimbBgdcbbcCeabbdabcCghcbFwcbmbgeagadbHqClUeaHnBgEOccFlaDsBfVifEbbBSQedbjBgb",
     "DcbKmadaeazbfaFvbBarnaBmhzkBucBwacdcbBnaCpfcbcbmaiaBvaBzabccbfbbaBqbiaJeacaeaBDZsaBCjpqpOc",
     "bXhaIsaFteCMgcbbfdBoceaGjbWbdOxbDccCskBxdEtaCcoBpacbkcBxdcbhaCjcBkebhCkambCaikdcaDrccabbga",
     "caGbadhvbCfbbabawaogdeHnhccbaxaDdacfbacabbbbJbacdgbbbBbbDhhcabbEcabacfbaDxccdbeJzibbJlakbb",
     "aeaFodcbeaBgjBofcdiajfccBumbbPqgbfbaDevcgbbbbEsfdabbbgbaCubdabaNjblbCaefabaHYragoURqeChgBO",
     "iaCldDdaBDBkbGYzBtcwUwabceeihcgBedFscCYdCceBxiaoaweboCAigbqcgbbbeDwaGegOlaCjdTodBMegEfgBTC",
     "AfDrEyJf"]),
   (["hex", "hexdigit"],
    ["BwjhfBafDSLljhfBaf"]),
   (["idsb", "idsbinaryoperator"],
    ["SEabch"]),
   (["idst", "idstrinaryoperator"],
    ["SEcb"]),
   (["idc", "idcontinue"],
    ["BwjhzeabzBvakabacafwbBebRpeloehabarEmbbcdbagebabtbDebFibecGjbBlcagBoiBsbabbbbbaiBaedBdkfCv",
     "eDxbhcjbscaqCgcDwoCbeacacBtsBbekfxbfjCvbEycjbsbhcbcvbgbaddcicbcdiaebbeclkabaccbfebcvbgbbbb",
     "bbcabeebccdahdbahplcbibcbvbgbbbecjbcbccapdcjjgbcbhcbcvbgbbbecicbcchcebbecjbaqbbfdcbddbbabb",
     "dbdcdleedcbdcagaojqmbcbwbpcibcbdhbbccacdcjqdbhbcbwbjbecibcbdhbgbbdcjbcmmbcbBybcbefdhecjkfb",
     "cbrdxbibacgdaefbabhgjcbnCffobjBnbbabebxbabwcebabgbjcdBgaxbgjlababaejbBjetbrbBjjaCfCvgCzcBl",
     "bafacBqbMubdcgbabdcBobdcBgbdcgbabdcobCebdcCoccjiopqDhcfdXvcqbzfCwdkhvjvltmmbcbbmDfdaebcjBh",
     "cbkgDkhBqfCrkBeblelkBncelBrezgkBlBbeCkbBcckgjnainbpBxCydjrimElmCdijdBwcihBqccqcbBmfUncfcBl",
     "cfchbabababBecCabgbadcbgddcfemfcbgCobtaBcanaqmBzmeadlraeacjbacfgabababpcdfeearBoDZbIugimBl",
     "bafacCdhapxjgbgbgbgbgbgbgbgbBfTxczobeceeDhcgbDlbdfBqbDprBfBwpTsJTnCmBGUeCpBtcKidBbuBvejbEk",
     "BlicDycClfbbabeyCbeatBzmCrkjgxdabBwcBjmBcdCmokgBebCcjncjgwdCuyccpcekfcfcfjgbgbBqbngEsbbcjg",
     "QNrmweBwMNcObcEbBmgmeflbmbebabbbbbEdBhNysClcCbBolepqpdbycBgebFetjhzeabzlDkdfcfcfccBjlbzbsb",
     "bbocnBiEsCrCaFgaFaBcdBwpaBfBfnBdfBqfBdcBjehbeBqGbcjgBjeBjeBniBzmkbobgbbbkbobgbbCpLyjvkhyfb",
     "BpbiCrfcabBrbbdacwkwjBeCnsbbkvkzCsCdgbCmdbbfhbcbBccceaBgBcdBcBjhbBdzCbkvksnrEgCuCdBynBynBn",
     "ijMoBpbbdbCxBfkaiBgBfvBquBbwjCsBfpjChhanyhjgCabjediBjcajCqedbmbaBjrbBkgdCkgbabdbobjhCgfjgd",
     "bhcbcvbgbbbebjcbcccagafgcgdeFjCwfjedBeCrbaijGkCbcixfBiCmdaljBmCehjCcBacoejggHdCgDxCvvhcach",
     "bbbBdbbcimjCshcBtchbbBbCkiaiCvdasCuKdibBsbipjyBdcvbnCvgbbbBrdabbbiijgfbbbBkbbbfhjLywjqbBod",
     "enjDiaDbBJlDyEgrHnDXkDspBPfqvFYgWkMUbVwhBebjgDabjgBdcelCcjdmjjufsBAmClEyCweCehqCmbbblboJBz",
     "iBVpBqiNFrdbgbbbLepaBdccaodiPfDKuEcfmdihjdbGYzBtcwUwedfihcgBedFscRbDgbCsbbcacbcdblbabgbCmb",
     "dchbgbBbbdbebadgbNbcybybBebybBebybBebybBebybhcBxTsCceBxiaoaweboBQmBegfIfgbqcgbbbefCjBhaEiB",
     "sdncjeaMjBerCfScBpBCogbdbbbobHolgBpCxejBTudbBabbbacabjbdbabagaeabababcbbbacabababababbbacd",
     "bgbdbdbabjbqfcbebqFAajBNqCLFbBgGDtgIncINpoLBkEPjUvCFyHHyfGFfBONHgJf"]),
   (["ids", "idstart"],
    ["CnzgzBvakaeafwbBebRpeloehabaEzebbcdbagabcbabtbDebFiiGjbBlcagBoCtBaedBtBqBjbbDubapbhbkccaqa",
     "bBdBdDklayBgjbeafveajadaxyhkfxbfrBpCgCbdasahjppehcbcvbgbadddaqanbbcobkaifebcvbgbbbbbbBfdba",
     "tcqibcbvbgbbbedasapbxalhcbcvbgbbbedaBebbcparabfdcbddbbabbdbdcdlwaCahbcbwbpdaBaccacbBeaehbc",
     "bwbjbedaBfbbbpbribcbBocaqafcicyffrdxbibacgCgBvbbmgCgbbabebxbabjbbjacebavdBgaClhbBjBbeElBqu",
     "aqfeddadbhcemmarBlbafacBqbMubdcgbabdcBobdcBgbdcgbabdcobCebdcCoBlpqDhcfdXvcqbzfCwdkhrnsorom",
     "bcpBzBjaeaCpDkhBobafCrkBeBxBdcelBrezCcwjCaDeaDpBurhCcBdnbkBrBaBjBpckBjcihBqccBpdbfbbdafHjC",
     "mKrcfcBlcfchbabababBecCabgbadcbgddcfemfcbgEmanaqmDxaeacjbacfgabababpcdfeearBoDZbIugddbmBlb",
     "afacCdhaqwjgbgbgbgbgbgbgbgVecziheceeDheebDlbdfBqbDprBfBwpTsJTnCmBGUeCpBtcKidpkbuBuqBecDbBn",
     "icDycClfbbabeypbcbdbwBdBzoBxCkfdabblBbkwzBchBuBcaqebjkebBoxcbhuwdadBxbadbcecabaycckhcmfcfc",
     "fjgbgbBqbngEkBdQNrmweBwMNcObcEbBmgmefabjbmbebabbbbbEdBhNysClcCbBolEmebFeBkzgzlDkdfcfcfccBj",
     "lbzbsbbbocnBiEsCrCaKhBcdBwBvBfnBdfBlkBdcBjehbeBqGbsBjeBjeBniBzmkbobgbbbkbobgbbCpLyjvkhyfbB",
     "pbiCrfcabBrbbdacwkwjBeCnsbbkvkzCsCdgbCmapdbcbBcBqBcdBcBjhbBbBbCbkvksnrEgCuCdBynBynBjNkBpgb",
     "DaBckaivBqrBuuBbwmCaCfbcanBsBgyBaBjBdacaiBidamBvodvabaBjrbytbClgbabdbobjhBuBmhcbcvbgbbbeda",
     "sameGcCasducBeBvubbaHcBuBpdBkBvuaChBqnaCtBaBlgHdBrEmClBfhcachbbbxpabaDqhcBmqabaBcakBnhaval",
     "BttasCuKdibBkraBxBdEigbbbBlvazfbbbBfoaMpspabmbBhEuaDbBJlDyEgrHnDXkDspBPfrfFYvWkMUbVwhBerDa",
     "rBdsBvqdBfufsBAmClEyCwfaComCmbbaBcJBziBVpBqiNFrdbgbbbLepaBdccaodiPfDKuEcfmdihjIWkDgbCsbbca",
     "cbcdblbabgbCmbdchbgbBbbdbebadgbNbcybybBebybBebybBebybBebybhCSyBegfKbCjFqBskgqaMjBdsBrSqBbB",
     "DcgbdbbbobHoChCphaBUidbBabbbacabjbdbabagaeabababcbbbacabababababbbacdbgbdbdbabjbqfcbebqGOa",
     "CLFbBgGDtgIncINpoLBkEPjUvCFyHHyfGFf"]),
   (["ideo", "ideographic"],
    ["SEwbziocBLdJTnCmBFBjBHSiObcEbBSIkaBbJBziBVpBqiNUlPfBDEiCLFbBgGDtgIncINpoLBkEPjUvCFyHHyfGFf"]),
   (["joinc", "joincontrol"],
    ["MDob"]),
   (["loe", "logicalorderexception"],
    ["FKieEteEDsccaCCXmbcabb"]),
   (["lower", "lowercase"],
    ["DtzBvakaeaBkxbhbabababababababababababababababababababababababababababbbabababababababbbab",
     "abababababababababababababababababababababacababccabacadbeacadccacababacabbbacadabacbccgac",
     "acababababababababbbababababababababbcabadabababababababababababababababababababababababab",
     "abababababgcacbbaeababababCqbBjhbBeeDsaBrabadacdsaBbBibbdcbabababababababababababebacacbBz",
     "Bvbababababababababababababababababajababababababababababababababababababababababababababa",
     "cababababababbbabababababababababababababababababababababababababababababababababababababa",
     "babababababababababaBwBoEHbBqbdBDgfDFuiEpHjCnababababababababababababababababababababababa",
     "bababababababababababababababababababababababababababababababababababababababababababababa",
     "bababababababibabababababababababababababababababababababababababababababababababababababa",
     "bababababababababababiifkhihifkhihinchihihiebbgadcbbidcbihkcbbEranaqmEfadbdaBbaeaeacbideaB",
     "hpeaBGlzCTqBvbadbbababaeabbbhdabababababababababababababababababababababababababababababab",
     "abababababababababababababababababababbhabaeamBlbafaBTWdababababababababababababababababab",
     "abababababatabababababababababababababcFdababababababcbabababababababababababababababababa",
     "bababababababababababababjbabacababababaeabacabcbabababababababababafafabababababababaeaba",
     "gababababaycbabcBFpBqbngDbBEAigmeBOzzBVhBnFgBjFzkbobgbbRjaccbBpbiBXlByEMfBfBGJwBfBMMkzBagb",
     "rBazBadbabgbkBazBazBazBazBazBazBazBazBaBbBcybfBaybfBaybfBaybfBaybfbaCSyjbtgfKbCjDHsBh"]),
   (["math"],
    ["BraqcBfaBdabaBtaeaBlaBfaBCaccaBabccUhcJWnaBbcladanaodveleCnmeadbeesaeacjbacfgadbcbbcbfdnba",
     "CqxbfbbebeBfbagboKhidubDmaBeBabayalgRdbmjefebcbdeoabacflhfbCfabaBddjcMyClJwTrBwucfDASqaBFr",
     "fbaGgaqcBdabaBdabaFbagdDCIdDgbCsbbcacbcdblbabgbCmbdchbgbBbbdbebadgbNbcLfcBxIIqdbBabbbacabj",
     "bdbabagaeabababcbbbacabababababbbacdbgbdbdbabjbqfcbebqCab"]),
   (["nchar", "noncharactercodepoint"],
    ["DSDcBfUgbDSYobDSYobDSYobDSYobDSYobDSYobDSYobDSYobDSYobDSYobDSYobDSYobDSYobDSYobDSYobDSYob"]),
   (["patsyn", "patternsyntax"],
    ["BhokgBadbaBadBigbabbbabbeaeadaxaBfaLUexiocsbjLtBBrGeYfBeBRnTsExOvceypaCZQzbKbb"]),
   (["patws", "patternwhitespace"],
    ["jesaDwaLYmbyb"]),
   (["pcm", "prependedconcatenationmark"],
    ["CHcfIhaBxaOubDcaDVXyapa"]),
   (["qmark", "quotationmark"],
    ["BiaeaFbapaLWuhzbFIdaRpdncDABpdHhaeaDmb"]),
   (["radical"],
    ["RPwzbDkmIf"]),
   (["ri", "regionalindicator"],
    ["HGOkz"]),
   (["sterm", "sentenceterminal"],
    ["BhamaqaCAbaFrcGyaBrcJmaCjabadbLhbCPwbBEkaebBDtaHqbHwafaMcbNqdGsbcbBdbHgbCnbBKubjcFGuanawbQ",
     "naBSHwaKkbItadaOsbDibDraFwbFrcFobJpaBFFiadbGnamaqaCnaEDwbBXdeBsdHhbEndExcEzbgaqbDkbbbEeaQb",
     "bOjbfoEbbJpcTxabaJrbDjbQebBAqbCwbBCMbbFdaCnblaBGtaBDOgaLIma"]),
   (["sd", "softdotted"],
    ["EbbHoaKvaBeaCaauaMiaDuabaJMnaBzanadaFcaGbaQfaIgbEGgaGELhbBybBybBybBybBybBybBybBybBybBybByb",
     "BybDFyaLtbBaa"]),
   (["term", "terminalpunctuation"],
    ["BhakabalbdaBFyaiaTtaCfaCuaoabcGyaBrkbaJbbCcoBfaKbbBWubGqaefLzbBEjhBDtaEucCtbGbcdaBndcbMcbN",
     "qdGsbbcBdbHgeCkbBKubjcFGuanaeakabbdbQmbBSHvbKjcIteOsbDibDraFvcFrcExaqbJpaBFFgcbdGnakabalbd",
     "aCnacaBPqaBwaBSoaHraLybFwfCqfDldBKqeBsdHhgEidExcEzbgaqbDkeEeaQbcmbNuddoEbbJpcTxabaJrbDjbeb",
     "PycBtaYvbCwbBYxeBAMzbFdaCnckaBGsbBDOgaLIld"]),
   (["uideo", "unifiedideograph"],
    ["TSaJTnCmBFBjBICsbbabbkababbccDVEcCLFbBgGDtgIncINpoLBkHQdHHyfGFf"]),
   (["upper", "uppercase"],
    ["CnzDxwbgBhabababababababababababababababababababababababababababacabababababababacabababab",
     "abababababababababababababababababababbbabadbbabbbccdbbbcdbbbbababbbacabbbcbabbdahacacacab",
     "ababababababacababababababababacacabcbabababababababababababababababababababababababababab",
     "ababahbbbcabdbabababaLdabadaiagabcbabbbqbiBjaccdabababababababababababafacabbcByBwabababab",
     "ababababababababababababajabababababababababababababababababababababababababababbbabababab",
     "abacababababababababababababababababababababababababababababababababababababababababababab",
     "ababababacBlEHdBlbafaBBuDhDGsBqccMiabababababababababababababababababababababababababababa",
     "bababababababababababababababababababababababababababababababababababababababababababababa",
     "babajababababababababababababababababababababababababababababababababababababababababababa",
     "babababababajhifkhihiflabababaihCudmdmdmeldKcaeadccccadegabababdcdkbfaBaptaBFmzCSuBvBwabcc",
     "abababdbacaicbabababababababababababababababababababababababababababababababababababababab",
     "ababababababababababaiabaeaBTYjababababababababababababababababababababababatababababababa",
     "bababababababaFfababababababadabababababababababababababababababababababababababababababab",
     "akababbbabababaeabacabadababababababababababebebabababababababdbagafabaBcaBHAhzBUzBnFgBjGa",
     "kbobgbbCQcByENlBfBGJwBfBMMqzBazBazBaabbcacbcdbhBazBabbdchbgBbbbdbebadgBbzBazBazBazBazBazBe",
     "yBhyBhyBhyBhyBhaGNlBhDBizgzgz"]),
   (["vs", "variationselector"],
    ["JCtcbaDJCapBWNKyJf"]),
   (["wspace", "whitespace", "space"],
    ["jesaDwaBaaIHjaDPnkBdbfaBvaFXwa"]),
   (["xidc", "xidcontinue"],
    ["BwjhzeabzBvakabacafwbBebRpeloehabarEmbbdcbagebabtbDebFibecGjbBlcagBoiBsbabbbbbaiBaedBdkfCv",
     "eDxbhcjbscaqCgcDwoCbeacacBtsBbekfxbfjCvbEycjbsbhcbcvbgbaddcicbcdiaebbeclkabaccbfebcvbgbbbb",
     "bbcabeebccdahdbahplcbibcbvbgbbbecjbcbccapdcjjgbcbhcbcvbgbbbecicbcchcebbecjbaqbbfdcbddbbabb",
     "dbdcdleedcbdcagaojqmbcbwbpcibcbdhbbccacdcjqdbhbcbwbjbecibcbdhbgbbdcjbcmmbcbBybcbefdhecjkfb",
     "cbrdxbibacgdaefbabhgjcbnCffobjBnbbabebxbabwcebabgbjcdBgaxbgjlababaejbBjetbrbBjjaCfCvgCzcBl",
     "bafacBqbMubdcgbabdcBobdcBgbdcgbabdcobCebdcCoccjiopqDhcfdXvcqbzfCwdkhvjvltmmbcbbmDfdaebcjBh",
     "cbkgDkhBqfCrkBeblelkBncelBrezgkBlBbeCkbBcckgjnainbpBxCydjrimElmCdijdBwcihBqccqcbBmfUncfcBl",
     "cfchbabababBecCabgbadcbgddcfemfcbgCobtaBcanaqmBzmeadlraeacjbacfgabababpcdfeearBoDZbIugimBl",
     "bafacCdhapxjgbgbgbgbgbgbgbgbBfTxczobeceeDhcbccbDlbdfBqbDprBfBwpTsJTnCmBGUeCpBtcKidBbuBvejb",
     "EkBlicDycClfbbabeyCbeatBzmCrkjgxdabBwcBjmBcdCmokgBebCcjncjgwdCuyccpcekfcfcfjgbgbBqbngEsbbc",
     "jgQNrmweBwMNcObcEbBmgmeflbmbebabbbbbEdBhFigIjsClcCbBojgpqpdbycBhabadababababEvtjhzeabzlDkd",
     "fcfcfccBjlbzbsbbbocnBiEsCrCaFgaFaBcdBwpaBfBfnBdfBqfBdcBjehbeBqGbcjgBjeBjeBniBzmkbobgbbbkbo",
     "bgbbCpLyjvkhyfbBpbiCrfcabBrbbdacwkwjBeCnsbbkvkzCsCdgbCmdbbfhbcbBccceaBgBcdBcBjhbBdzCbkvksn",
     "rEgCuCdBynBynBnijMoBpbbdbCxBfkaiBgBfvBquBbwjCsBfpjChhanyhjgCabjediBjcajCqedbmbaBjrbBkgdCkg",
     "babdbobjhCgfjgdbhcbcvbgbbbebjcbcccagafgcgdeFjCwfjedBeCrbaijGkCbcixfBiCmdaljBmCehjCcBacoejg",
     "gHdCgDxCvvhcachbbbBdbbcimjCshcBtchbbBbCkiaiCvdasCuKdibBsbipjyBdcvbnCvgbbbBrdabbbiijgfbbbBk",
     "bbbfhjLywjqbBodenjDiaDbBJlDyEgrHnDXkDspBPfqvFYgWkMUbVwhBebjgDabjgBdcelCcjdmjjufsBAmClEyCwe",
     "CehqCmbbblboJBziBVpBqiNFrdbgbbbLepaBdccaodiPfDKuEcfmdihjdbGYzBtcwUwedfihcgBedFscRbDgbCsbbc",
     "acbcdblbabgbCmbdchbgbBbbdbebadgbNbcybybBebybBebybBebybBebybhcBxTsCceBxiaoaweboBQmBegfIfgbq",
     "cgbbbefCjBhaEiBsdncjeaMjBerCfScBpBCogbdbbbobHolgBpCxejBTudbBabbbacabjbdbabagaeabababcbbbac",
     "abababababbbacdbgbdbdbabjbqfcbebqFAajBNqCLFbBgGDtgIncINpoLBkEPjUvCFyHHyfGFfBONHgJf"]),
   (["xids", "xidstart"],
    ["CnzgzBvakaeafwbBebRpeloehabaEzebbdcbagabcbabtbDebFiiGjbBlcagBoCtBaedBtBqBjbbDubapbhbkccaqa",
     "bBdBdDklayBgjbeafveajadaxyhkfxbfrBpCgCbdasahjppehcbcvbgbadddaqanbbcobkaifebcvbgbbbbbbBfdba",
     "tcqibcbvbgbbbedasapbxalhcbcvbgbbbedaBebbcparabfdcbddbbabbdbdcdlwaCahbcbwbpdaBaccacbBeaehbc",
     "bwbjbedaBfbbbpbribcbBocaqafcicyffrdxbibacgCgBvbangCgbbabebxbabjbakacebavdBgaClhbBjBbeElBqu",
     "aqfeddadbhcemmarBlbafacBqbMubdcgbabdcBobdcBgbdcgbabdcobCebdcCoBlpqDhcfdXvcqbzfCwdkhrnsorom",
     "bcpBzBjaeaCpDkhBobafCrkBeBxBdcelBrezCcwjCaDeaDpBurhCcBdnbkBrBaBjBpckBjcihBqccBpdbfbbdafHjC",
     "mKrcfcBlcfchbabababBecCabgbadcbgddcfemfcbgEmanaqmDxaeacjbacfgabababpcdfeearBoDZbIugddbmBlb",
     "afacCdhaqwjgbgbgbgbgbgbgbgVecziheceeDhgcbDlbdfBqbDprBfBwpTsJTnCmBGUeCpBtcKidpkbuBuqBecDbBn",
     "icDycClfbbabeypbcbdbwBdBzoBxCkfdabblBbkwzBchBuBcaqebjkebBoxcbhuwdadBxbadbcecabaycckhcmfcfc",
     "fjgbgbBqbngEkBdQNrmweBwMNcObcEbBmgmefabjbmbebabbbbbEdBhFigIjsClcCbBojEpabadababababEvBkzgz",
     "lCdcBedfcfcfccBjlbzbsbbbocnBiEsCrCaKhBcdBwBvBfnBdfBlkBdcBjehbeBqGbsBjeBjeBniBzmkbobgbbbkbo",
     "bgbbCpLyjvkhyfbBpbiCrfcabBrbbdacwkwjBeCnsbbkvkzCsCdgbCmapdbcbBcBqBcdBcBjhbBbBbCbkvksnrEgCu",
     "CdBynBynBjNkBpgbDaBckaivBqrBuuBbwmCaCfbcanBsBgyBaBjBdacaiBidamBvodvabaBjrbytbClgbabdbobjhB",
     "uBmhcbcvbgbbbedasameGcCasducBeBvubbaHcBuBpdBkBvuaChBqnaCtBaBlgHdBrEmClBfhcachbbbxpabaDqhcB",
     "mqabaBcakBnhavalBttasCuKdibBkraBxBdEigbbbBlvazfbbbBfoaMpspabmbBhEuaDbBJlDyEgrHnDXkDspBPfrf",
     "FYvWkMUbVwhBerDarBdsBvqdBfufsBAmClEyCwfaComCmbbaBcJBziBVpBqiNFrdbgbbbLepaBdccaodiPfDKuEcfm",
     "dihjIWkDgbCsbbcacbcdblbabgbCmbdchbgbBbbdbebadgbNbcybybBebybBebybBebybBebybhCSyBegfKbCjFqBs",
     "kgqaMjBdsBrSqBbBDcgbdbbbobHoChCphaBUidbBabbbacabjbdbabagaeabababcbbbacabababababbbacdbgbdb",
     "dbabjbqfcbebqGOaCLFbBgGDtgIncINpoLBkEPjUvCFyHHyfGFf"])]

end Unicode
end Rulebook
