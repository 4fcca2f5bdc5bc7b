/-!
The general categories of characters.
-/

namespace Rulebook
namespace Unicode

/-- Two-letter categories: their names, and their characters in packed form. -/
def categories : List (List String × List String) :=
  [(["cc", "control", "cntrl"],
    ["aBfDrBg"]),
   (["cf", "format"],
    ["GraCAkfwaHkaBxaOubDcaFTjaDAqeBaeBxebjDGHjaJpcGIzapaNKkpBZQudHWxhBTKZmaBeDr"]),
   (["co", "privateuse"],
    ["DGVoJMdCAHXoDSYncDSYn"]),
   (["ll", "lowercaseletter"],
    ["DtzCgaBpxbhbabababababababababababababababababababababababababababbbabababababababbbababab",
     "abababababababababababababababababababacababccabacadbeacadccacababacabbbacadabacbccgacacab",
     "abababababababbbababababababababbcabadabababababababababababababababababababababababababab",
     "abababgcacbbaeababababCqbBaHlabadadcsaBbBibbdcbabababababababababababebacacbBzBvbababababa",
     "babababababababababababajababababababababababababababababababababababababababacabababababa",
     "bbbabababababababababababababababababababababababababababababababababababababababababababa",
     "babababaBwBoEHbBqccBDgfDFuiEpBrClmbBhDyabababababababababababababababababababababababababa",
     "bababababababababababababababababababababababababababababababababababababababababababababa",
     "babababibababababababababababababababababababababababababababababababababababababababababa",
     "babababababababiifkhihifkhihinchihihiebbgadcbbidcbihkcbbKoadbdaBbaeaeacbideaCbaEBbBvbadbba",
     "babaeabbbffabababababababababababababababababababababababababababababababababababababababa",
     "babababababababababbhabaeamBlbafaBTWdababababababababababababababababababababababatabababa",
     "babababababababababaFfababababababcbababababababababababababababababababababababababababab",
     "ababababhbabacababababaeabacabcbabababababababababafafabababababababaeabagababababaBcadaBF",
     "pBqfihDbBEAigmeBOzzBVhBnFgBjFzkbobgbbCRbByEMfBfBGJwBfBMMkzBagbrBazBadbabgbkBazBazBazBazBaz",
     "BazBazBazBaBbBcybfBaybfBaybfBaybfBaybfbaCSyjbtgfDUdBh"]),
   (["lm", "modifierletter"],
    ["BAmreloehabaFdafaSkaIwaGibKjbeaBfajadaGeaGlaBVoaExaVtaCPmaEdaXnaRwfGsCknaBiBkBAnanaqmEMxbJ",
     "haHjaSbaBrefaDtbDpcBQBuaBWcfKkaEkaBcbEriDcaxaEbcdbSbawaFhaEeavbDzdjaBFViaBtbCZofbBpbiBLRxd",
     "BQlmCmbbaYGqdbgbbSGnCjHtgBKfaBRba"]),
   (["lo", "otherletter"],
    ["GoapaJwaedIaaBFvBaedBtBfbjBjbbDubaybkccaqabBdBdDklayBgvvBqyhkfxbfrBoChCbdasahjqoehcbcvbgba",
     "dddaqanbbcobkaifebcvbgbbbbbbBfdbatcqibcbvbgbbbedasapbxalhcbcvbgbbbedaBebbcparabfdcbddbbabb",
     "dbdcdlwaCahbcbwbpdaBaccacbBeaehbcbwbjbedaBfbbbpbribcbBocaqafcicyffrdxbibacgCgBvbbmfChbbabe",
     "bxbabjbbjacexdBgaClhbBjBbeElBquaqfeddadbhcemmaEjMqbdcgbabdcBobdcBgbdcgbabdcobCebdcCoBlpEjX",
     "vcqbzfCwghhrnsorombcpBzBoaCpBibCahecBhbafCrkBeBxBdcelBrezCcwjCaGuBurhCcBdnbkBrBaBjBpckBdEj",
     "dbfbbdaBPqdENvCdywjgbgbgbgbgbgbgbgVfaCbaeDhiabDleafBqbDprBfBwpTsJTnCmBFCebBRyCpBniKhepkbCo",
     "aBxCrGnaDzadgbcbdbwBdBzoBxCkfdabblBbkwzBchBuBtecikebBoxcbhupbfdadBxbadbcecabaybdkhaofcfcfj",
     "gbgFpBiBdQNrmweBwMNcObcEbCpabjbmbebabbbbbEdBhNysClcCbBolEmebFeEbjbBscBedfcfcfccBjlbzbsbbbo",
     "cnBiEsOzBcdBwBvBfntbhgBlkBdcBjehEyCzDuBniBzGaLyjvkhFwfcabBrbbdacwkwjBeCnsbbkvkzCsCdgbCmapd",
     "bcbBcBqBcdBcBjhbBbBbCbkvksnrEgCuHbBjNkBpgbDaBckaivBqrBuuBbwmCaCfbcanBsBgyBaBjBdacaiBidamBv",
     "odvabaBjrbytbClgbabdbobjhBuBmhcbcvbgbbbedasameGcCasducBeBvubbaHcBuBpdBkBvuaChBqnaCtBaBlgHd",
     "BrIdhcachbbbxpabaDqhcBmqabaBcakBnhavalBttasCuKdibBkraBxBdEigbbbBlvazfbbbBfoaMpspabmbBhEuaD",
     "bBJlIwHnDXkDspBPfrfFYvWkMUbVwhBerDarBdsBvBzufsBHwCwfaGtJBziBVpBqiNGhLepaBdccaodiPfDKuEcfmd",
     "ihjNBcaThBsBhaMjBdsBrSqBaBDdgbdbbbobHoBZndbBabbbacabjbdbabagaeabababcbbbacabababababbbacdb",
     "gbdbdbabjbqfcbebqGOaCLFbBgGDtgIncINpoLBkEPjUvCFyHHyfGFf"]),
   (["lt", "titlecaseletter"],
    ["RlacacaBmaLFhhihihmapaBva"]),
   (["lu", "uppercaseletter"],
    ["CnzDxwbgBhabababababababababababababababababababababababababababacabababababababacabababab",
     "abababababababababababababababababababbbabadbbabbbccdbbbcdbbbbababbbacabbbcbabbdahacacacab",
     "ababababababacababababababababacacabcbabababababababababababababababababababababababababab",
     "ababahbbbcabdbabababaLdabadaiagabcbabbbqbiBjaccdabababababababababababafacabbcByBwabababab",
     "ababababababababababababajabababababababababababababababababababababababababababbbabababab",
     "abacababababababababababababababababababababababababababababababababababababababababababab",
     "ababababacBlEHdBlbafaBBuDhDGsBqccMiabababababababababababababababababababababababababababa",
     "bababababababababababababababababababababababababababababababababababababababababababababa",
     "babajababababababababababababababababababababababababababababababababababababababababababa",
     "babababababajhifkhihiflabababaihCudmdmdmeldKcaeadccccadegabababdcdkbfaCjaDZgBvBwabccababab",
     "dbacaicbababababababababababababababababababababababababababababababababababababababababab",
     "abababababababaiabaeaBTYjababababababababababababababababababababababatabababababababababa",
     "babababaFfababababababadababababababababababababababababababababababababababababababakabab",
     "bbabababaeabacabadababababababababababebebabababababababdbagafabaBcaBHAhzBUzBnFgBjGakbobgb",
     "bCQcByENlBfBGJwBfBMMqzBazBazBaabbcacbcdbhBazBabbdchbgBbbbdbebadgBbzBazBazBazBazBazBeyBhyBh",
     "yBhyBhyBhaGNlBh"]),
   (["mc", "spacingmark"],
    ["DKtaCdaccidbbBybCgcgbcbkaBraCgcCoaCgciabbCbbCgabagbcbkaDybbbdcbckaBpcCjdCjbCgabecbbbjbBcao",
     "bCgcfcbckaBqbCxcghsbMsbClaGpbeagacbzbkccgvbcfcakcCLsaBeaEzahhbbNidccebbfIqbCgabajabbifFpaB",
     "wafabebbCjaBeaebcaCiaccbadbBwhibGpavaHHebBTLbbcaDkbBypFmbBvaBwbebccEgbcbyaBtabaEfacbfaJdbb",
     "bbbbaBLXjabaExaBtcebElaybChaBwcjbnaDpcdbbaGocBfbCgbbdcbccjakbIbcibdaEccgabdcaJdcgdcaEjcibb",
     "aEfabbgaEbbeaKbcjaJnfbbeacabaFmcideaDgaBdbCkaPraoaEcahacaIfeebbaNmbmaBwbibbaBEIhCcEabBKXnb",
     "gf"]),
   (["me", "enclosingmark"],
    ["BSqbIKqaCIgdbcBYOxc"]),
   (["mn", "nonspacingmark"],
    ["BDoEhKpeKfBsbabbbbbaCukBwuqaDxgcfcbbdBjaBeBaDnkCgijaydbibcbeBrcCihBqxbBfCdabaeheadgkbBdaCg",
     "aediaubBaacbCfaebebccdaBebdalbCfaeebbeaubwfbaCgacabdiahblbBeaCjamaByadaCdabcfcbdhblbBdaCga",
     "cagafbubBcbCfbediaubBdaCuahcbaDmacgmhDuacilgCvbBbababaCdnbebbfkbBjjaDydbfbbcbzbecqdnacbgap",
     "aBBbcBKkcBdbBebBebCmbbgiackjaBtcbaEnbBiaEocebjagcIlbcaCgabgbabachgjcaBwnbpBxdBwabebafaBoim",
     "bBgdcbbcCeabbdabcCghcbFwcbmbgeagadbHqClBBsmeadlEOccFlaDsBfVidEdbBSQeaejBgbDcbKmadaeazbfaFv",
     "bBarnaBmhzkBucBwacdcbBnaCpfcbcbmaiaBvaBzabccbfbbaBqbiaJeacaeaBDZsaBCjpqpBLlaIsaFteCMgcbbfd",
     "BoceaGjbWbdOxbDccCskBxdEtaCcoBpacbkcBxdcbhaCjcBkebhCkambCaikdcaDrccabbgacaGbadhvbCfbdaBlgd",
     "eHnhccbaxaDgfbaebbbJedgbbbBbbDhhcabbEcabacfbaDxccdbeJzibbJwbbaeaFodcbeaBgjBofcdiajfccBumbb",
     "PqgbfbaDevcgbbbbEsfdabbbgbaCubdabaNjblbCaefabaHYragoURqeChgBOiaCldDdaBDBkbGYzBtcwUycrhcgBe",
     "dFscCYdCceBxiaoaweboCAigbqcgbbbeDwaGegOlaCjdTodBMegEfgBTCIvJf"]),
   (["nd", "decimalnumber", "digit"],
    ["BwjCIojFejHqjPwjEojEojEojEojEojEojEojEojEojDsjEojCsjKsjCsjCTqjBmjLojEyjGkjgjHajDijFejgjCAE",
     "ojBAcjBmjHqjwjDijPqjBFMcjCCkjDFyjBFgjEyjCijFojKsjNejEojOkjDyjDyjQgjDyjBDejJmjCsjQgjBCKsjDi",
     "jFejBPBwBxDNcjQgjTijBQsjHBaj"]),
   (["nl", "letternumber"],
    ["IRucDYtBicdFMsaziocBSYljBIFgCaRsaiaFeeMEsEg"]),
   (["no", "othernumber"],
    ["GwbfaccDMrfOmfEqcFdgIjgriQrjBPltBRvjSmaCMvadfgjHqpBpaBByChDavYgBdCBhaBTcdFijBehboBgjBnoBSM",
     "ifBHQnBsCndrbNdBaBkdBZghzgBniCxewfGebcpcBtCmiCabBecCxeEahyhBpgMsfNoBeGcjBqdEigFetOptBZxbQo",
     "iBHnsBGtuBCPqgBEswBLYftmtEeyIBuiBJtCgbcbdCyBsboBLam"]),
   (["pc", "connectorpunctuation"],
    ["DraMBvbtaDGAobycJfa"]),
   (["pd", "dashpunctuation"],
    ["BtaCAuaBzaFKjaBNpaDBdfFHxacaBfbeaBcaReataEhaCZWabBlakaGnaFXva"]),
   (["pe", "closepunctuation"],
    ["BpaBzaBfaFPdabaCUoaDRdaCdapaYkabaBeaBPuababababababaDcaBgababababaPoababababababababababaC",
     "mabaBhaBOvabababaBsabababaQmababababadabababacbCZRqaIjaBdabababababababadarababaGoaBzaBfac",
     "aca"]),
   (["pf", "finalpunctuation"],
    ["HfaLWvadaBcaFFsabaeacapada"]),
   (["pi", "initialpunctuation"],
    ["GpaLXkacbcazaFFsabaeacapada"]),
   (["po", "otherpunctuation"],
    ["BhcbccababbkbdbBbaCqafaobhaBBaaiaRyfBpaCcacacaBsbubbbnabcCwdDyaBrnIzcCcoBfaKbbkaFkaEqaEraP",
     "aamaOdaDmakbGmobaEiaCweebEhfGpaXoiBDtaEucCtbGbcbcBlfbdMbbIibEygbfGqgBcbEvdCheCkbCmhlaBGcbi",
     "hiicdccdkbabjEUcdbbEiaFnbeccacibbbacbkebjcdbabmccQmcCfaHhaBRYgbKjcDvakaElfOqdDibBocbaBxbBv",
     "aDtmqbEudEwbqbJpaBFCugcawaubcddcbdhcgabbFtcbccababbkbdbBbaBkacbPucZsaBwaPyaBCpaHraBfaKmiBm",
     "aEigCogDldBKqeBsdHhgEfbbdEwdBwbDbdeanabcDkfEdaQbekbbaEaaJqwEbcBcmCyaFacJsaKecFzaDohDfcbeDp",
     "jLzeBqbYvbCwmGtaBRseEJcbWDvbFdaCneiaBGsdMpaBDBoaLIleFPyb"]),
   (["ps", "openpunctuation"],
    ["BoaByaBfaFPeabaCUoaDPmadaBmaCdapaYkabaBeaBPuababababababaDcaBgababababaPoababababababababa",
     "babaCmabaBhaBOvabababazasabababaQmababababadabababacaCZRtaIhaBdabababababababadarababaGoaB",
     "yaBfadaca"]),
   (["sc", "currencysymbol"],
    ["BkaEvdBWjaEtaTebTebhaJlaKdaWjaDQpaDIiBgBZHvaBGMlaEeaFyaIlbdbMCsdCVXeaDRka"]),
   (["sk", "modifiersymbol"],
    ["DqabaCtagaeadaUbdmnfgbabqEnaobBXiaIUmabclcncncnbGHobBSVrwjbDzbBLoaobBEKkqBIhabaGgaDOLje"]),
   (["sm", "mathsymbol"],
    ["BraqcCjabaBtaeaBlaBfaBDmaUhcJYhanaBncncFjaBnegaCqefbeacacahaBfbcabaBfKhBgbDmaBeyBofSbajaCc",
     "hEhaMyecBekpJwFawCkeBfcJxBwucfDASqaBFsabcGiaqcCjabaFbagdDDJgazaBfazaBfazaBfazaBfazaIUeb"]),
   (["so", "othersymbol"],
    ["GkacaeabaBLpaKgbExbHyakatbJnaTvaOjaFafbaFcaHzaBpaPbcpabccfuababaFdhbfbbfdHpbBCyjBBvaBBuaGb",
     "BhNpjjiCChbbdbbkabbgfbababaealboabbbaCgbjecdbbbbbgbBecbbabBeKihetcgcDcbBdzBngCqzkDdCzwHabi",
     "bCbiEgbJnBsBrCmJvTsBvvbgBmcBfbEaIvfNtbBuzbDkmIfBalianbmavbgbMybejBgBjBcBelBdiapBfkBmpMhJTo",
     "ClBGUiCcBHhdkbbaWbcBFJapExaBtcSqadaebnbMbiCfqccbmdaBvBsCLubWtaESsaDGnheqBCNidfaBEUwaHCdElC",
     "iJlkBmcChfcwbhBdeCivCndaHeDiBTxTrCddByhbnbbCOuaEHwaEzaBBtBreDvmocobobBkxGeCeBcnBreihbofFyJ",
     "qfBBzeqdmdEoeDqgleapleCdijgBniBdcbDaNbmncmdihBtbgineihihFqbCc"]),
   (["zl", "lineseparator"],
    ["MEqa"]),
   (["zp", "paragraphseparator"],
    ["MEra"]),
   (["zs", "spaceseparator"],
    ["BgaExaIHjaDPnkBkaBvaFXwa"])]

end Unicode
end Rulebook
