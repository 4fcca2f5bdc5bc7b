/-!
How characters of host names are mapped: to other characters, to nothing, or to
themselves. Some may not occur at all.
-/

namespace Rulebook
namespace Unicode

/-- Runs of mapped characters in packed form: the distance from the start of the previous
run; twice the length less one, and one more if only every other character belongs to it; the
number of targets less one; and each target, as its distance from the start of the run. -/
def mappings : List String :=
  ["CnByaCmDraaJviabKlBUucaaFpfabKzBTydcaJvcabLjBTibaaCHqdabLrBVybaaKlbaaFtcacKrXWyKlbacKtXWwKrb",
   "acKrXWuKpcBsaCmymaCmBoBvacBwabPhBKgcabPlPjbabPnPlbdacffacgabQfKlbabQhKnbhaciabBCoQvbBtacBuaa",
   "JhbfacgaaUpcaaQebdaceaaPwbaacccaPucaacdaaGcbaaPobaaPqbaaccaaPubaaPycaaQgbaaQcbaaceaaQgbaaQkc",
   "aaQmbfacgaaQubaaccaaQudaaccaaQubaacccaQscdaceaaQwbaaceaaciabBBbFjbabBBdFlbabBBfFnbabBArBAvba",
   "bBAtBAxbabBAvBAzbabBAtBBbbabBAvBBdbabBAxBBfbpacrractabBEnBCvbabBEpBCxbabBErBCzbaaccaaHlbaaEh",
   "bBnacBoaaJzcracyaaBFYkbaaccaaMnbaaBFYedaaccaaOzbaaFibaaFmbjacEcaaBSxbaaFtbaaBSxbaaBSjbaaEnba",
   "aElbaaEbbaaBShbaaBSfBgabCBnDobabCBpDobabCBrDsbabCBtFybabCBvDababCBxDodaaJpbaaBWjbaaBVxbaaBVp",
   "baaGbDocaExdaaDrbabEpFdbaaIyBrdaceaaOjcaaceabCNzEweaaCMfbaaIyfabCOtKbbacCOvJpKdbaaCybaaCDjbe",
   "aCweaaEyccaEwdBgaCmsqaCmBsaaqbaaChbaaBxbaazbaalbaarbaaBdbaaBrcxacyaaEdbaaDrbaaDpcaaEpbaaExca",
   "accaaEdbaacdeaJzdBeaGeqCkaCmDcBhacBqCbacCcaaBebnacpDracDtCwaDsDiabCpjJeabFzbbabDndbabGefbabD",
   "nhBCiabFdCdbabFdCfbabFdChbabEvCjbabEnClbabEnCnbabDxCpbabDrCrEvabEnClbabEnCncabDrCrDgabbsdabe",
   "mBjabFdCfbabFdChbabEvCjdabDxCpJuabEnClbabEnCnBByabCabEyabCabBpabDtFdbabDvEpBvaabCdabbIykabbI",
   "efabbHufabbHkfabbHanabDdFwkabdbcabhbbabEqubacEolsbabEoqbacEmpoiabBfbsabbCukabbCafabbBqfabbBg",
   "fabbwnabDdhIxCwaVMuBnaaVMugaaVMuBvaaClBDkkapDGaaaSKpbaaSKnbaaSJvbcaSJrcaaSJtbaaSJfbaaSHjbaaE",
   "AIwbaachDgaIXjBteaIXjEhaaVUzbaaVKvbdaVVbdaaVVbbaaUSfboaVVbjaaVVdbaaUNrbaaVVfbaaVVdbcaVVbcaaV",
   "UzbaaVWtbcaUKtcaaFfbaaVWzbcaVWxcaaUKnbcaUKlcaaVXbcaaVWxbaaVWvbaaVFvbaaVWvbaaULpbcaEtcaaVXbbc",
   "aVWvcaaEpbaaUKbbaaVWzbaaEfbeaTLldcaTKdcaaVYnbaaVXxbcaVXtccaTMdcaaTLdbcaTKvpaaTCvBjaaURhbaaWD",
   "lbaaURfbaaVStbaaUQvbaaWDnbaaUQtbaaUQrbaaUQlbeaUQhdaaDjbaaUMnbaaUQhbaaCvbaaUMpbaaUQfbaaUQjbga",
   "UQheaaUQdbcaUPlcaaVGdbcaUPdcaaLzbcaUPfcaaWEbbeaUPbdaaTSnCnFtacFyabWXdVCpbaaEldaaWNtcDracEaoa",
   "pqkapqoapqoapqkaprhappoapjaaVAvcaaVAxcaaVAzcaaVBbcaaUYzcaaUZbcaaUZddabJvVAzbabJvVBbbabJvVBdb",
   "abJvVBfbabJvVBhbabJvVBjbabJvVBlbabJvVBnbabKlVBpbabKlVBrbabKlVBtbabKlVBvbabKlVBxbabKlVBzbabKl",
   "VCbbabKlVCdbabIpVCfbabIpVChbabIpVCjbabIpVClbabIpVCnbabIpVCpbabIpVCrbabIpVCtbabJfVCvbabJfVCxb",
   "abJfVCzbabJfVDbbabJfVDdbabJfVDfbabJfVDhbabJfVDjbabExVDlbabExVDnbabExVDpbabExVDrbabExVDtbabEx",
   "VDvbabExVDxbabExVDzbabFnVEbbabFnVEdbabFnVEfbabFnVEhbabFnVEjbabFnVElbabFnVEnbabFnVEpdabFbVEvb",
   "abVFnVExbabVFzVEzdabbVFfbcapcaaFrbaaVGnbabVGfVFpbabXYnVSlbaaVFtbabXYrVSpbabXYtVPbbacXYvVTpVP",
   "dbabFzVGbbabVGhVGdbabVHbVGfdabbVGlbaaGpbaaVHnbaaGpbaaVHpbabVGzVGvbacXZtVTrVVdbacXZvVTtVVdbac",
   "XZxVTvVQfeaaVKnfcapcaaHrbaaVItcacYAzVUvVWjbacYBbVUxVWjbacYBdVUzVRleaaVJhfcapcaaIpbaaVHrbaanb",
   "acYCfVWzVXpbacYChVXbVXpbaaXXldabJbVJtbabVIpVJvbabVIhVJxdabbVKdbaaJvbaaVIvbaaJrbaaVIvbabVJhVK",
   "nbabYDlVYtbabYDnVXjcaaYDrbaaYDtbaaYDvbaaYDxbaaYDzbaaYEbbaaYEdbaaYEfbaaYEhbaaYEjbaaYElhaabgab",
   "YFlVWxyaaYHheabbbbacdddcabbbbacdddfabYIfYIfcabYIlWDljabYGtYGtbabYGvYJdbabYJfYGxoadCvCvCvCvia",
   "aYKzraaYLbbaaYGtdkaYLbgaaYMfbaaBFibaaYKzbcaYMrcaaYHlbsaYMhkaaYNlbaaBEcbaaYMfbcaYNxdaaYJtbaaY",
   "JnbaaYIvbaaYIfbaaWXhbaaYJpbgaYJleaaYJjbcaYJfnabYKhYKfDkacYSjYWfYSfbacYSlYWhYRbbaaYSjbabYMnYS",
   "lcacYSpYWpYRrbacYSrYWrYRhbaaXFzcabYMzYSrbcaYSrcaaYStbaaYSvbaaYSxbaaYEhbaaYSzbaaYTbbaaYSxbdaY",
   "SzdabYTbYSzdeaYTddaaYTfbaaYThdabYTlYTxbacYTlYUpYUbbabYTnYUbcaaYTfcaaWGfcaaYTncaaYUvbaaYLnbca",
   "YVrdaaYVrbcaYVtcaaCebaaYVjbaaYVhbgaUTleaaYWdcacYWnYWxYVdbaaWIpbaaWJrbaaWJtbaaWIvbaaQcfaaYXlb",
   "caYXnccaYXhiacZCfUpZBtbacZChUrZBrbadZCjUtZCjZClbacZClUvZChbacZClUxZCjbacZCpUzZChbacZCpVbZCjb",
   "acZCpVdZClbacZCpVfZCnbacZCxVhZCnbacZCrVjZCpbacZDbVlZCnbacZCzVnZCpbacZCxVpZCrbacZCvVrZCtbabZD",
   "jVtbaaYZdbabYZfYZfbacYZhYZhYZhbabYZjYYjbaaYYlbabYYnYZnbacYYpYZpYZpbadYYrYZrYZrYZrbabYZtYYpba",
   "aYYrbabYYtYZxbacYYvYZzYZzbaaYZvbcaZApcaaYZzbaaZAjbabZAlZAlbacZAnZAnZAnbabZApYZpbaaYZrbabYZtZ",
   "AtbacYZvZAvZAvbadYZxZAxZAxZAxbabZAzYZvbaaYZxbabYZzZBdbacZAbZBfZBfbaaZBbbcaZBvcaaZBfeaacgacZG",
   "rYzZGlGhabbbbacdddcabbbbacdddJpcaJTmLzqaBBKnjabBBLfBBLhbabBBLhBBLhbabBBLjBBLhbabBBLlBBLhbabB",
   "BLnBBLhbabBBLpBBLhbabBBLrBBLhbabBBLtBBLhbabBBLvBBLhbabBBLxBBLhbabBBLxBBMbbacBBMtBBMbBBMrbacB",
   "BMvBBMbBBMtbacBBMxBBMbBBMvbacBBMzBBMbBBMxbacBBNbBBMbBBMzbacBBNdBBMbBBNbbacBBNfBBMbBBNdbacBBN",
   "hBBMbBBNfbacBBNjBBMbBBNhbadBBNlBBMtBBMvBBNjbadBBNnBBMvBBMvBBNlbadBBNpBBMxBBMvBBNnbadBBNrBBMz",
   "BBMvBBNpbadBBNtBBNbBBMvBBNrbadBBNvBBNdBBMvBBNtbadBBNxBBNfBBMvBBNvbadBBNzBBNhBBMvBBNxbadBBObB",
   "BNjBBMvBBNzbadBBOdBBNlBBMvBBObbadBBOfBBNlBBNpBBOdvacBBPvBBLlBBPtbacBBPxBBLlBBPvbacBBPzBBLlBB",
   "PxbacBBQbBBLlBBPzbacBBQdBBLlBBQbbacBBQfBBLlBBQdbacBBQhBBLlBBQfbacBBQjBBLlBBQhbacBBQlBBLlBBQj",
   "bacBBQnBBLlBBQlbacBBQpBBLlBBQnbacBBQrBBLlBBQpbacBBQtBBLlBBQrbacBBQvBBLlBBQtbacBBQxBBLlBBQvba",
   "cBBQzBBLlBBQxbacBBRbBBLlBBQzbacBBRdBBLlBBRbbacBBRfBBLlBBRdbacBBRhBBLlBBRfbacBBRjBBLlBBRhbacB",
   "BRlBBLlBBRjbacBBRnBBLlBBRlbacBBRpBBLlBBRnbacBBRrBBLlBBRpbacBBRtBBLlBBRrbByaBBNlBaByaBBPlBaaa",
   "BBVfBYoadFZdFZdFZdFZdEaacBFZnBFZnBFZhbabBFZjBFZjbacBFZlBFZlBFZlDyabcBEApLgDqaDsDsaaccaaBFUjb",
   "aaLHjbaaBFTddfacgaaBFXfbaaBFUvbaaBFXlbaaBFXjcaacdaachaaBHJvbaaBHIzbcaBFZxcDvacEddachaacEvaaB",
   "bLsaaBUIuDgaaDHIunaaXMmbaaXPmbaaXQmbaaXRcbaaXTabaaXWibaaXWubaaXYgbaaYAebaaZXsbaaBAAobaaBAAyb",
   "aaBACqbaaBAEcbaaBAFqbaaBAJqbaaBALebaaBALybaaBAXubaaBBEybaaBBHabaaBBHibaaBBJobaaBBKebaaBBMeba",
   "aBBNcbaaBBOybaaBBSwbaaBBUebaaBBWebaaBECgbaaBEHsbaaBFRabaaBFSsbaaBFTgbaaBFUabaaBFVibaaBGBcbaa",
   "BHLsbaaBHPibaaBHYmbaaBIAebaaBIBobaaBIDebaaBIHgbaaBIHkbaaBJJebaaBJJwbaaBJKsbaaBJLqbaaBJUmbaaB",
   "JVabaaBJVibaaBKEgbaaBKEybaaBKFwbaaBKGkbaaBKLabaaBKMgbaaBKNobaaBKTqbaaBMMgbaaBMPsbaaBMRgbaaBO",
   "WcbaaBOWkbaaBPCsbaaBPDwbaaBPEubaaBPGibaaBPJgbaaBPJobaaBQEabaaBQFubaaBQIebaaBTIgbaaBTNgbaaBTO",
   "ybaaBTTibaaBTVcbaaBTVsbaaBTWebaaBUAcbaaBUAkbaaBUCubaaBXHsbaaBYQabaaBYQwbaaBYRebaaBYRkbaaBYRy",
   "baaBYTgbaaBYTibaaBYZmbaaBZQabaaBZQibaaCAQibaaCARabaaCAUubaaCAVgbaaCAVwbaaCAWkbaaCBDibaaCBDub",
   "aaCBVgbaaCBVsbaaCBZkbaaCCAqbaaCCEebaaCCWibaaCCWubaaCCYabaaCDXcbaaCEGsbaaCEHcbaaCEVabaaCFBqba",
   "aCFFcbaaCGIcbaaCGSgbaaCIKibaaCIMibaaCIQqbaaCIUmbaaCIZqbaaCJAkbaaCJAubaaCJDgbaaCJJabaaCJJsbaa",
   "CKKgbaaCKKsbaaCKLibaaCKLybaaCKNcbaaCKOebaaCKOkbaaCKUkbaaCKUqbaaCKVabaaCNSkbaaCNUqbaaCPEqbaaC",
   "PFmbaaCPHebaaCQCwbaaCQDubaaCQJebaaCQMqbaaCSEebaaCSFgbaaCSGibaaCSIybaaCSLsbaaCTAybaaCTBubaaCT",
   "GwbaaCTZwbaaCUCebaaCUSebaaCUTsbaaCUUabaaCVKwbaaCVYybaaCWImbaaCWIwbaaCWJebaaCZCybaaCZDobaaCZP",
   "mbaaDABgbaaDABkbaaDAEybaaDAMybaaDANwbaaDAOcbaaDAOobaaDAWabaaDAYobaaDAYybaaDAZybaaDBMsbaaDBQo",
   "baaDBQubaaDCEubaaDCEybaaDCGibaaDCZqbaaDDDgbaaDDDsbaaDDJabaaDDJsbaaDDJwbaaDDKobaaDDMubaaDERcb",
   "aaDFVubaaDFWmbaaDFZibaaDGAybaaDGBmbaaDGCebaaDGCkbaaDGFkbaaDGFqbaaDGGwbaaDGHebaaDGIcbaaDGKcba",
   "aDGLebaaDGLsbaaDGQebaaDGRgbaaDGRmBraaBKGtcaaBKFvCaaaCtcaaBANybcaBAOcDuabBKSrdbabBKStddabBtBp",
   "DsabFvEfBycaYJxcaaXWzbaaYJzbcaXWzceaYKddkaXXbgaaYJbbeaYKrdaaYIvbsaYKtkBoaYEtwcaYMjccaXYtcaaX",
   "YnbaaXYlbaaXYdbaaXXxbaaXXvbaaYMlbaaXXrbaaXXpbcaYMpcaaYMnbcaYMlcaaYMfbaaYMdbiaYMbfaaYLxbaaYLr",
   "baaYKzbaaYKnbaaYKfbcaXXpceaYJpdcaYGjcaaYGfbcaYFpcaaYFnbaaYEvbaaYEreaaVNwbaaVYobaaVOkbaaBCGab",
   "aaVOibaaVQybaaVOgbaaBZFebaaVUcbaaVPcbaaVNebaaBDYubaaBCLwbaaWBeDtacBLTnYZvBLTlbacBLTpYZtBLTnb",
   "acBLTrYZtBLTpbacBLTtYZrBLTrbacBLTvYZrBLTtbacBLTxYZrBLTvbacBLTzYZpBLTxbacBLUbYZnBLTzbacBLUdYZ",
   "nBLUbbacBLUfYZlBLUdbacBLUhYZlBLUfbacBLUjYZlBLUhbacBLUlYZlBLUjbacBLUnYZlBLUlbacBLUpDOJkBLUnba",
   "cBLUrDRVuBLUpbacBLUtDTOyBLUrbacBLUvDXBiBLUtbacBLUxDYUmBLUvbacBLUzEANqBLUxbacBLVbEEAaBLUzbacB",
   "LVdEHMkBLVbbacBLVfEJFoBLVdbacBLVhEMRyBLVfbacBLVjEOLcBLVhbacBLVlEQEgBLVjbacBLVnERXkBLVlbacBLV",
   "pETQoBLVnbacBLVrEKHcBLVpbadBLVtEIDaEJNyBLVrbadBLVvEICyEUSiBLVtcacBLVzVCyBLVxbacBLWbVNqBLVzba",
   "cBLWdVDmBLWbbacBLWfBBVcBLWdbacBLWhVOaBLWfbacBLWjXSaBLWhbacBLWlVCsBLWjbacBLWnXRsBLWlbacBLWpVJ",
   "mBLWnbacBLWrZBsBLWpbacBLWtBOBcBLWrbacBLWvBVDwBLWtbacBLWxBRYuBLWvbacBLWzBODiBLWxbacBLXbCULiBL",
   "WzbacBLXdBBZkBLXbbacBLXfBNEgBLXdbacBLXhBOWwBLXfbacBLXjBOAoBLXhbacBLXlCBVaBLXjbacBLXnZQoBLXlb",
   "acBLXpBWRoBLXnbacBLXrCQMoBLXpbacBLXtCBXcBLXrbacBLXvYPsBLXtbacBLXxVSmBLXvbacBLXzZYqBLXxbacBLY",
   "bBFEsBLXzbacBLYdBZZyBLYbbacBLYfVUmBLYdbacBLYhCQOwBLYfbacBLYjZBmBLYhbacBLYlCBXqBLYjbacBLYnVVk",
   "BLYlbacBLYpCIIqBLYnbacBLYrCIJgBLYpbaaBAOcbaaBHMsbaaBMVibaaCDNcjacBLUdBLTvBLUzbabBLYzBLZbbabB",
   "LZbBLZbbabBLZdBLZbbabBLZfBLZbbabBLZhBLZbbabBLZjBLZbbabBLZlBLZbbabBLZnBLZbbabBLZpBLZbbabBLZpB",
   "LZvbabBLZrBLZvbabBLZtBLZvbabBLZvBLZvbabBLZxBLZvbabBLZzBLZvbaaZHfbcaZHdceaZHbdaaZGzbcaZGxciaZ",
   "GvfaaDOCabaaDROkbaaDTHobaaDWTybaaDYNcbaaEAGgbaaEDSqbaaEHFabaaEIYebaaEMKobaaEODsbaaEPWwbaaERQ",
   "abaaETJebabEMLkDOSebabEJZqEITibaaEIGicaaUVobaaVGgbaaUWcbaaBBNsbaaVGqbaaXKqbaaUVibaaXKibaaVCc",
   "baaYUibaaBNTsbaaBUWmbaaBRRkbaaBNVybaaCUDybaaBBSabaaBMWwbaaBOPmbaaBNTebaaCBNqbaaZJebaaBWKebaa",
   "CQFebaaCBPsbaaYIibaaCBZabaaBYLubaaBDKybaaCTBebaaXDqbaaYWibaaBSDubaaCYUsbaaVOabaaXLubaaBQZoba",
   "aUTobaaUWebaaUTmbaaBGTqbaaZFqbaaYRkbaaBEZybaaBEWcbaaBZRibaaVLwbaaCQGgbaaYSwbaaBDCqbabBMGhBMG",
   "bbabBMGjBMGbbabBMGlBMGbbabBMGnBMGbbabBMGnBMGvbabBMGpBMGvbabBMGrBMGvbabBMGtBMGvbabBMGvBMGvbab",
   "BMGxBMGvbabBMGzBMGvbabBMHbBMGvbabBMHdBMGvbabBMHfBMGvbabBMHfBMHpbabBMHpBNPobabBMHpBNPmbabBMHp",
   "BNPkbabBMHpBNPibabBMHpBNPgbabBMHpBNPebabBMHpBNPcbabBMHpBNPababBMHpBNOybacBMIhBMIjBNOwbacBMIj",
   "BMIjBNOubacBMIlBMIjBNOsbabBMEhBMEjbacBMEpBMDpBMElbabBMErBMDjbacBMEfBMDpBMEvbaaBQxbaaBQvbaaBQ",
   "tbaaBQrbcaBQpcaaBQnbaaBQlbaaBQjbaaBQhbaaBQfbaaBQdbaaBQbbaaBPzbaaBPxbaaBPvbaaBPtbaaBPpbaaBPnb",
   "aaBPlbkaBPjgaaBPfbaaBPbbaaBOxbaaBOtbiaBOpfaaBOnbaaBOlbkaBOjggaBOheabVDiZKsbadBUpBQzBNrBRrbad",
   "BUrBPbBQtBUtbadBUtBOnBQlBUtbacBUvBNxBPfbadBUtBRtBOrBTvbacBUvBOtBSpbacBUtBUnBOvbaeBUrBTjBUdBO",
   "fBSdbadBUtBOhBUnBOhbacBUrBPbBTnbacBUtBOlBQpbacBUtBVhBPxbadBUvBQbBSzBSpbadBUxBPvBQbBOrbacBUxB",
   "PxBPlbacBUzBPnBRdbabBUxBVbbacBUzBStBOzbadBVdBQvBQlBPbbadBVdBQlBTtBPdbabBVhBQjbaeBVjBQlBVdBQt",
   "BRlbafBVlBQnBRlBPjBTjBQrbaeBVnBQpBQlBTvBTlbacBVjBQzBRrbaeBVlBRbBRtBTpBQhbaeBVpBQzBUpBWlBQvba",
   "dBVrBQxBPtBTjbacBVpBPvBUzbacBVnBRfBTtbacBVpBPzBSjbadBVnBWvBVzBRjbaeBVpBQvBUrBQdBShbadBVnBRpB",
   "QxBWbbacBVhBQzBUvbacBVjBRbBUjbacBVbBQlBVpbabBUpBVvbabBUnBRxbabBUrBRjbabBUpBUhbacBUjBVfBUvbac",
   "BUjBXrBVfbaeBUhBQzBVzBRrBUzbacBUjBRbBVjbadBUnBRdBSjBSlbaeBUhBYdBWjBVfBSnbacBUjBXfBSpbabBUlBW",
   "zbabBUpBStbaeBUnBYnBSzBVxBVlbadBUpBYlBRpBVpbaeBUpBWbBWzBYfBSzbacBUtBTfBSlbaeBUpBXtBWnBRvBTdb",
   "abBUnBWtbacBUpBVtBVfbacBUvBTjBWjbacBUtBSvBXhbacBUvBSfBXlbacBUzBShBWzbadBUtBZdBTbBWjbacBUxBTt",
   "BWlbabBVbBTfbacBUzBThBWnbacBVfBSrBTzbacBVhBStBTlbadBVdBZpBYtBTzbacBVfBZrBUfbacBVhBXjBWlbacBV",
   "jBUjBYzbaeBVlBTvBYlBUtBTvbadBVlBZdBUjBTxbabBVnBUrbaeBVpBUtBWtBTjBUrbabBVnBZpbadBVpBZrBXnBUfb",
   "adBVrBTpBXpBUxbacBVnBTrBXpbacBVpBTtBVbbacBVnCAtBUnbadBVhBYhBXxBVfbabBVjBVlbacBVjBXdBUbbadBVl",
   "BUdBXbBVlbabBVlBWjbaeBVnBUzBYhBZzBUzbacBVjBYtBYjbabBMTjBUMsbabBMTjBUMqbabBMTjBUMobabBMTjBUMm",
   "babBMTjBUMkbabBMTjBUMibabBMTjBUMgbabBMTjBUMebabBMTjBUMcbabBMTjBUMabacBMUbBMUdBULybacBMUdBMUd",
   "BULwbacBMUfBMUdBULubacBMUhBMUdBULsbacBMUjBMUdBULqbacBMUlBMUdBULobacBMUnBMUdBULmbacBMUpBMUdBU",
   "LkbacBMUrBMUdBULibacBMUtBMUdBULgbacBMUtBMUxBULebacBMUvBMUxBULcbacBMUxBMUxBULabacBMUzBMUxBUKy",
   "bacBMVbBMUxBUKwbacBMQzBMQjBMRnbabBMRjBMRpbabBMRrBMQdbacBMRrBMRtBMQlbabBMQtBMQfbabBMQtBMRtbab",
   "BMRtBMRbbacBMRvBMRdBMVrbacBMRxBMRfBMVrbabBMRpBMQrbabBGOeBJHibabBMKgZBcbabBCNsBQIubabBMHsBRJe",
   "badBNXeBGZwUXqCAVmbabBMRnBMSrbabBMRtBMStbabBKEtBMSvbabBMRzBMSxbabBMSfBMSzbabBMShBMSzbabBMSfB",
   "MTbbabBMStBMTdbacBMTdBMThBMSlbadBMSpBMTfBMTjBMSnbabBMShBMTbbabBMSnBMTdbabBKFnBMTfbabBKFpBMTf",
   "babBMSvBMThbabBMTbBMTjbabBMTjBMRzbacBMTfBMTlBMSbbacBMTdBMTnBMSdbacBMTrBMTpBMSfbacBMStBMTrBMS",
   "hbabBKGfBMTlbabBMTlBMTnbabBMUfBMTpbabBMTtBMTrbabBMUfBMTrbabBMTrBMTtbabBKGrBMTvbabBMTxBMTxbab",
   "BMUtBMTzbabBMUfBMUbbacBMUdBMUdBMYrbacBMUzBMUfBMYtbabBMUhBMYvbacBMUnBMUjBMYxbacBMUlBMUlBMYxba",
   "cBMVhBMUnBMYzbabBMUpBMZbbacBMUvBMUrBMZdbacBMUtNHzBMUhbadBMUvNIbBMUjBMZjbabBMUrBMVvbacBMVdBMU",
   "tBMVxbacBMVbBMUvBMVzbacBMVpBMUxBMWbbacBMUvBMWdBMVxbaeBMUxBMWfBMVzNInBMUvbafBMUzBMWhBMWbNIpBM",
   "UxBMZxbabBMVfBMUzbabBMVlBMVbbabBKIlBMVdbabBMVrBMVfbabBMVnBMVbbabBMVtBMVdbabBKItBMVfbabBMVzBM",
   "VhbabBMWfBMVjbabBMWdBMVlbabBMVzBMVlbabBMWfBMVnbabBKJfBMVpbabBMWlBMVrbabBMWrBMVtbabBMWpBMVvba",
   "bBMWvBKInbabBMWtBKIpcabBMXtBMWpbabBMXtBMXtbabBMXvBMXtbadBMXxNKjBMXhBMXpcabBMXzBMYdbabBMXvBMW",
   "lbabBMXvBMYjbabBMXxBMXhbabBMXxBMXnbabBMXvBMXvbabBMXxBMXtbabBMXzBMXhbabBMXzBMXxbabBMYbBMXxbac",
   "BMYdBMXxBMYnbabBMYfBMXhbabBMYfBMZbbacBMYhBMYpBMYjbacBMYjBMYfBMYlbabBMYfBMYvcacBMYjBMYjBMYpba",
   "bBMYlBMYhbabBMYhBMYjbabBMYjBMYdbabBMYdBMZtbacBMYhNMfBMYzbacBMZzNMhBMZbbabBNDtBLXababBNDtBLWy",
   "babBNDtBLWwbabBNDtBLWubabBNDtBLWsbabBNDtBLWqbabBNDtBLWobabBNDtBLWmbabBNDtBLWkbacBNElBNEnBLWi",
   "bacBNEnBNEnBLWgbacBNEpBNEnBLWebacBNErBNEnBLWcbacBNEtBNEnBLWabacBNEvBNEnBLVybacBNExBNEnBLVwba",
   "cBNEzBNEnBLVubacBNFbBNEnBLVsbacBNFdBNEnBLVqbacBNFdBNFhBLVobacBNFfBNFhBLVmbacBNFhBNFhBLVkbacB",
   "NFjBNFhBLVibacBNFlBNFhBLVgbacBNFnBNFhBLVebacBNFpBNFhBLVcbacBNFrBNFhBLVabacBNFtBNFhBLUybacBNF",
   "vBNFhBLUwbacBNFvBNGbBLUubacBNFxBNGbBLUsbacBNBzBNClBNBpBRGzBtacCmBbacBcaaESYlbaaESYjFdnacqCja",
   "cCkaabjdaceaaEANvbjacnaaccaaEVChddacgtacuaaEVElbaaEVFhbaaEVEzbaaEVEfbaaEVElcaaEVApbaaEVClbaa",
   "EVAvbaaCTkbpacqaaDrbaaEVEjbaaEARvbdaceaaEVHdbpacqaaEVXxvaaEWWhbaaEWXpbaaEWXlbaaEWWrbaacdaaEW",
   "IzbaaEWFrBHjaaDEvbaaCxbaaEXYzbaazkaaEXXfhGcaEKZnBDJsaaDEIxbaaEGQbbaaDCLrbaaDDZhbaaEARlbaaEZJ",
   "xbaaEVBtbaaCPSvbaaCPSxbaaEQZfbaaDAErbaaETVzbaaERAdbaaEKLhbaaDUYrbaaDOBjbaaDIYzbaaDHVxbaaDGXn",
   "baaDBEdbaaEEJjbaaECAlbaaDZEvbaaDWXlbaaDKNdbaaDANtbaaCUBxbaaEZFlbaaEVMbbaaEDQfbaaDYGrbaaDJBnb",
   "aaCQYdbaaEOAjbaaDZYbbaaDJJfbaaDGQpbaaEJWxbaaDMJjbaaDHPvbaaEMXvbaaEGQlbaaEBVzbaaDXQjbaaDBBfba",
   "aEYMvbaaEWVtbaaEVZdbaaEIKtbaaEDVnbaaDYJbbaaDURvbaaDNUrbaaDJGfbaaDIZrbaaDDGpbaaCWGhbaaCTAxbaa",
   "CRCxbaaDTMbbaaDSTlbaaDPQfbaaDKYzbaaCZLdbaaCQTdbaaDFQjbaaERMjbaaEMVlbaaDQPjbaaDNMjbaaDYEhbaaD",
   "TIfbaaDEFbbaaCWMdbaaERNnbaaEOVxbaaEEMjbaaEBQbbaaEASjbaaDQAhbaaDPGbbaaCWZzbaaEWCtbaaDNMlbaaEW",
   "VvbaaEWXdbaaDSJjbaaDPPxbaaDKXxbaaCWXjbaaDFFfbaaEKApbaaEEOxbaaDFPlbaaEZQfbaaEPGxbaaEMCxbaaDXJ",
   "vbaaDVYhbaaEVYtbaaDTGrbaaEYMtbaaEMLlbaaEZUhbaaECMxbaaEIBhbaaDQDjbaaEVMdbaaERZnbaaDUUhbaaDKSv",
   "baaDFXhbaaEDIpbaaDCCnbaaECSxbaaEJYvbaaDLUrbaaEJMnbaaDWArbaaEZJdbaaEXHlbaaEXAdbaaEFUvbaaDQJfb",
   "aaDMEjbaaDFVhbaaDANtbaaEWDnbaaEVDzbaaERFvbaaENCdbaaEHXjbaaEAEdbaaDTFpbaaCXQfbaaCUAzbaaCQWvba",
   "aCQSrbaaEWLhbaaEHEfbaaEDPxbaaDCKrbaaENMhbaaELDdbaaEKUpbaaEIVlbaaEAWbbaaDZFvbaaDWTxbaaDSUnbaa",
   "DPQpbaaDNTvbaaDCQdbaaDKJlbaaDBWvbaaCZMvbaaEWWvbaaEWMdbaaEUWvbaaDZQrbaaDHMpbaaDGBdbaaENHhbaaE",
   "MKhbaaEJSzbaaEDNpbaaDQZnbaaDXQpbaaEZItbaaETFrbaaEPMrbaaEOCvbaaEMHzbaaDXMjbaaDWYjbaaDOMbbaaDN",
   "YxbaaDAJxbaaCWUhbaaCWObbaaCVYdbaaEYWxbaaDSZfbaaDAUfbaaCWZnbaaELTvbaaEZRjbaaEXXpbaaEPNnbaaEPH",
   "jbaaEIFhbaaEEWnbaaDYZbbaaDVPlbaaDKLnbaaDBTdbaaCQInbaaEHNlbaaCXLfbaaEWRjbaaEGUzbaaEGLvbaaECLl",
   "baaEBKvbaaDXIbbaaDWIhbaaDTZxbaaDQMnbaaCVUxbaaEXNzbaaEKWdbaaCXGnbaaEYMzbaaEOSlbaaEBZjbaaDCUrb",
   "aaEMWnbaaELOrbaaEGKjbaaDXTfbaaCXGdbaaEXAlbaaEVPdbaaEPHbbaaEHYnbaaEHAjbaaEFZvbaaECUlbaaDXKdba",
   "aDVZpbaaDOSvbaaDHRbbaaDHPtbaaDAWfbaaCXAdbaaEWGdbaaEBLbbaaEVPfbaaDZClbaaDWZtbaaDJVnbaaCXFnbaa",
   "CSXhbaaCRElbaaEGWfbaaECEdbaaDMYdbaaDSIhbaaDSBvbaaDQZlbaaDYKxbaaEABjbaaDFUtbaaEZSbbaaDLZbbaaE",
   "XBtbaaEXFtbaaENRhbaaEKNdbaaDQUzbaaEQBdbaaECSrbaaEHPbbaaDCXbbaaDIDrbaaCXNzbaaDHFhbaaENOpbaaEX",
   "VzbaaEULldaaESMlcaaEHUxdaaEXKnbaaDYExbaaDVLpbaaDTPnbaaDTMzbaaDTMnbaaDTJjbaaCWVbbaaDQYvbaaDOR",
   "xcaaDJXjcaaDGFbdaaDCFxbaaDBQveaaCVQrbaaCVPtbaaCVMlbaaCSAzbaaDBTvbaaCXItbaaEZDrbaaEYFrbaaEXXx",
   "baaEWUtbaaEWStbaaEWKlbaaEURhbaaEUJhbaaEUBvbaaESRpbaaESJrbaaEPOfbaaEPNnbaaEMJxbaaELTrbaaELQvb",
   "aaELJfbaaEIVbbaaEIJvbaaEHWlbaaEGKbbaaECQtbaaECEhbaaEBKbbaaDZQxbaaDZClbaaDXPvbaaDUGpbaaDTTjba",
   "aDTSpbaaDTStbaaDTSfbaaDTRvbaaDTRjbcaDTNtcaaDTAdbaaDSVfbaaDRWtbaaDQFlbaaDQDxbaaDPZrbaaDPChbaa",
   "DORbbaaDNFpbaaDMUxbaaDMUzbaaDLKhbaaDHVjbaaDHLdbaaDGJhbaaDGFbbaaDEZpbaaDEVpbaaDCUxbaaDCKzbaaC",
   "XJtbaaCWNzbaaCWJlbaaEMPvbaaJOVcbaaDNDpdaaFAMtbaaEXUtbaaEYAtbaaEZMjbaaEYDpbaaEXZdbaaEXAbbaaEW",
   "WfbaaEUWjbaaEVBzbaaEUWvbaaEURhbaaESUtbaaESNzbaaESCxbaaESBtbaaERHbbaaEQRxbaaENXvbaaENXjbaaENM",
   "jbaaENHfbaaEMKhbaaEMBhbaaEMGtbaaELWnbaaEMAdbaaELOzbaaELJzbaaEKFhbaaEJYpbaaEJUnbaaEJApbaaEIEr",
   "baaEHSfbaaEHRzbaaEHNnbaaEEKdbaaEEFfbaaEDBfbaaEBVtbaaEBXbbaaEBQlbaaEAXdbaaDZXjbaaDVExbaaDZIfb",
   "aaDYYxbaaDYPnbaaDXQlbaaDXFbbaaDXBbbaaDWJtbaaDWJrbaaDVWpbaaDVVjbaaDVTnbaaDVMzbaaDVNvbaaDUJlba",
   "aDSYfbaaDSDlbaaDRPdbaaDQXzbaaDQMhbaaDPMzbaaDOXtbaaDMKvbaaDLYvbaaDJHfbaaDHYfbaaDHSzbaaDHRvbaa",
   "DGVbbaaDGQtbaaDGUhbaaDGQfbaaDGQnbaaDGRxbaaDGMdbaaDGFzbaaDFCrbaaDDLrbaaDCNpbaaDBQzbaaDBAbbaaC",
   "XYxbaaCXRbbaaCXIhbaaCWYdbaaCWVlbaaCWUpbaaCWQzbaaCUNdbaaCRBvbaaIUIwbaaIUIibaaJDCabaaFOVhbaaFL",
   "LdbaaFLIrbaaKADkbaaKICqbaaLHWibaaCRJlbaaCRDtBnabHHUxHHUxbabHHUzHHUtbabHHVbHHUpbacHHVdHHVdHHU",
   "xbacHHVfHHVfHHUtbabHHUhHHUfbabHHUjHHUhnabHEAvHEArbabHEAxHECbbabHEAzHEBrbabHEAhHEAxbabHEBdHEB",
   "rgabHDTvHDWrcabHDSbHDWpbaaHDTjbaaHDUvbcaHDUrceaHDUfdaaHDTlbaaHDTjbaaHICpbabHDTpHDWrbabHDTrHD",
   "WrbacHDTtHDXfHDWvbacHDTvHDXhHDWvbabHDVvHDXtbabHDVxHDXtbabHDVzHDXnbabHDVzHDXpbabHDVzHDXrbabHD",
   "VzHDXtbabHDVzHDXvbabHDVzHDXxbabHDVzHDXzcabHDVzHDYdbabHDVzHDYfbabHDVzHDYhbabHDVzHDYjbabHDVzHD",
   "YlcabHDVzHDYpcabHDVzHDYtbabHDVzHDYvcabHDVzHDYzbabHDVzHDZbcabHDVzHDZfbabHDVzHDZhbabHDVzHDZjba",
   "bHDVzHDZlbabHDVzHDZnbabHDXrHDZvbabHDYbHDZlbabHDXjHDZnbabHDWtHDZpbabHDYjHDXlbaaHDMbbaaHDMdbaa",
   "HDLlbaaHDLnbaaHDLpbaaHDLrbaaHDLnbaaHDLpbaaHDLrbaaHDLtbaaHDLrbaaHDLtbaaHDLvbaaHDLxbaaHDMlbaaH",
   "DMnbaaHDMpbaaHDMrbaaHDMjbaaHDMlbaaHDMnbaaHDMpbaaHDNdbaaHDNfbaaHDNhbaaHDNjbaaHDKdbaaHDKfbaaHD",
   "KhbaaHDKjbaaHDKhbaaHDKjbaaHDKlbaaHDKnbaaHDNfbaaHDNhbaaHDNjbaaHDNlbaaHDNpbaaHDNrbaaHDNtbaaHDN",
   "vbaaHDNrbaaHDNtbaaHDNvbcaHDNxcaaHDNzbaaHDObbaaHDOdbaaHDNtbaaHDNvbaaHDNzbaaHDObbaaHDNzbaaHDOb",
   "baaHDOpbaaHDOrbaaHDNnbaaHDNpbaaHDOfbaaHDOhbaaHDMnbaaHDMpbaaHDMrbaaHDMtbaaHDMjbaaHDMlbaaHDMnb",
   "aaHDMpbaaHDMjbaaHDMlbaaHDMnbaaHDMpbaaHDMvbaaHDMxbaaHDMzbaaHDNbbaaHDMlbcaHDMncaaHDMpbaaHDMrba",
   "aHDMtbaaHDMlbcaHDMncaaHDMpbaaHDMrbaaHDMtbaaHDNbbaaHDNdbaaHDNfbaaHDNhbaaHDLvbcaHDLxcaaHDLzBia",
   "aHDRnbaaHDRpbaaHDRrbaaHDRtbaaHDPvbaaHDPxbaaHDQbbaaHDQdbaaHDQbbaaHDQdbabHDQhHDWrbaaHDQbbaaHDQ",
   "dbaaHDQrbaaHDQtbaaHDQnbaaHDQpbaaHDQdbaaHDQfbaaHDQhbaaHDQjbaaHEAvbaaHEAxbabHEDrHEDpbabHEDtHED",
   "rbabHEDvHDQjbabHEDxHDQlbabHEDzHEBjbabHEEbHEBlbabHEEdHDRtbabHEEfHDRvbabHEEhHDRzbabHEEjHDSbbab",
   "HEElHDRzbabHEEnHDSbbabHEEpHDRnbabHEErHDRpbabHEEtHDRrbabHEEvHECdbabHEExHECfbabHEEzHEChbaaHDSh",
   "baaHDSjbaaHDSlbaaHDSnbabHEFjHEExbabHEFlHEExbabHEFnHEDdbabHEFpHECxbabHEFrHECxbabHEFpHEFhbabHE",
   "FrHEFhbabHEFtHEFhbabHEFvHEDpbabHEFxHEDjbabHEFzHEDjbabHEFxHEFtbabHEFzHEFtbabHEGbHEFtbabHEGdHE",
   "EbbabHEGfHEDvbabHEGhHEDvbabHEGhHEGfbabHEGjHEEjbabHEGlHEEdbabHEGnHEEdbabHEGnHEGlbabHEGpHEErba",
   "bHEGpHEGrbabHEGrHEEvbabHEGrHEGvbabHEGtHEGvbabHEGvHEFbbabHEGnHEHbbabHEGpHEHbbabHEGrHEHbbabHEG",
   "tHEFjbabHEGrHEHhbabHEGtHEFnbabHEGtHEHnbabHEGvHEHnbabHEGxHEHnbabHEGzHEFvbabHEGzHEHtbabHEHbHEF",
   "zbabHEHbHEGbbabHEHbHEIbbabHEHdHEGfbabHEHdHEIfbabHEHfHEGjbabHEGtHEIjbabHEGvHEIjbabHEGxHEIjbab",
   "HEGzHEGrbabHEHbHEGlbabHEHdHEGlbabHEHdHEItbabHEHfHEGzbabHEHhHEGtbabHEHjHEGtbabHEHjHEJnbabHEHl",
   "HEJfbabHEHnHEJfbabHEHpHEJfbabHEHrHEHpbabHEHtHEHpbabHEHvHEHjbabHEHxHEHjbabHEHxHEJtbabHEHzHEJt",
   "babHEIbHEJtbabHEIdHEIbbabHEIfHEHvbabHEIhHEHvbabHEIhHEKfbabHEIjHEKfbabHEIlHEKfbabHEInHEInbabH",
   "EIpHEIhbabHEIrHEIhbabHEIrHEKrbabHEItHEKrbabHEIvHEKrbabHEIxHEIzbabHEIzHEItbabHEJbHEItbabHEJbH",
   "ELdbabHEJdHEJhbabHEJfHEJbbabHEJhHEJbbabHEJdHELlbabHEJfHELlbabHEJhHELlbabHEJjHEJtbabHEJlHEJnb",
   "abHEJnHEJnbabHELpHEGrbabHELpHEGtbabHEJvHEGvbacHJBfHEJrHEJhbacHJBhHEJrHEJjbacHJBjHEJrHEJlbacH",
   "JBlHEJrHEJnbacHJBnHEJrHEJpbacHJBpHEJrHEHhbabHENbHEMfbabHENdHEMfbabHENfHEKvbabHENhHEKvbabHENj",
   "HEKrbabHENlHEKrbabHENjHEMrbabHENlHEMrbabHENnHELhbabHENpHELhbabHENrHELdbabHENtHELdbabHENrHENd",
   "babHENtHENdbabHENvHELtbabHENxHELtbabHENzHELpbabHEObHELpbabHEObHENpbabHEOdHENpbabHEOfHEMfbabH",
   "EOhHEMfbabHEOjHEMbbabHEOlHEMbbabHEMvHEMfbabHEMxHEMfbabHEMxHEMjbabHEMzHEMjbabHEMzHEPdbabHENbH",
   "EMzbabHENdHEMzbabHENfHEMtbabHENhHEMtbabHENhHENfbabHENjHEMzbabHENlHEMzbabHENlHEPtbabHENnHENnb",
   "abHENnHEPdbabHENpHEPdbabHENrHENtbabHENtHENtbabHENvHENpbabHENxHENpbabHENtHEKtbabHENtHEPrbabHE",
   "NvHEPrbabHENxHEOhbabHENzHEOhbabHEObHEOdbabHEOdHEOdbabHEQzHEQnbabHERbHEQnbabHERdHEQnbabHERfHE",
   "OvbabHERhHEOtbabHERfHEQxbabHERhHEQxbabHERjHEQxbabHERlHEPfbabHERnHEPdbabHERlHERhbabHERnHERhba",
   "bHERpHERhbabHERrHEPpbabHERtHEPnbabHERtHEPtbabHERtHERrbabHERvHEPxbabHERvHERxbabHERxHEQbbabHER",
   "xHESbbabHERzHEQfbabHERrHESfbabHERtHESfbabHERvHESfbabHERxHEQnbabHERvHESlbabHERxHESlbabHERzHEQ",
   "tbabHERzHEStbabHESbHEStbabHESdHEStbabHESfHERbbabHESfHESzbabHESfHERfbabHESfHETfbabHEShHERjbab",
   "HEShHETjbabHESjHERnbabHERxHETnbabHERzHETnbabHESbHETnbabHESdHERvbabHESdHETtbabHESfHERzbabHESf",
   "HETzbabHEShHETzbabHESjHETzbabHESlHESjbabHESnHESjbabHESnHEUjbabHESpHEUjbabHESrHEUjbabHEStHESr",
   "babHESvHESpbabHESvHEUtbabHESxHEUtbabHESzHEUtbabHETbHETbbabHETbHEVbbabHETdHEVbbabHETfHEVbbabH",
   "EThHETjbabHETjHEThbabHETjHEVlbabHETlHETpbabHETnHEQjbabHETjHEVrbabHETlHEVrbabHETnHEVrbabHETpH",
   "ETzbabHETrHETxbabHEWnHEUdbabHEWpHEUbbabHEWnHEUhbabHEWpHEUfbabHEWnHEUlbabHEWpHEUjbabHEWpHEUpb",
   "abHEWrHEUnbabHEWdHEUtbabHEWfHEUrbabHEWfHEUxbabHEWhHEUvbabHEVfHEVdbabHEVhHEVdbabHEVhHEVfbabHE",
   "VfHEVhbabHEVhHEVfbabHEVbHEVlbabHEVdHEVjbacHEVzHEUxHEUrbacHEWbHEUxHEUtbacHEWdHEUxHEUvbabHEWxH",
   "EVnbabHEWzHEVnbabHEWxHEVrbabHEWzHEVrbabHEWzHEVvbabHEXbHEVvbabHEXrHEVzbabHEXtHEVzbabHEXtHEWdb",
   "abHEXvHEWdbabHEYlHEWhbabHEYnHEWhbabHEYrHEWlbabHEYtHEWlbabHEYrHEWpbabHEYtHEWpbabHEYhHEWtbabHE",
   "YjHEWtbabHEYjHEWxbabHEYlHEWxbabHEYrHEZhbabHEYtHEZhbabHEYvHEZhbabHEYxHEXpbabHEYzHEZfbabHEZdHE",
   "ZhbabHEZbHEZjbabHEZbHEZlbabHEZbHEXrbabHEZdHEXrbabHEZbHEXvbabHEZdHEXvbabHEZdHEXzbabHEZfHEXzba",
   "bHEZvHEYdbabHEZxHEYdbabHEZxHEYhbabHEZzHEYhbabHFApHEYlbabHFArHEYlbabHFAvHEYpbabHFAxHEYpbabHFA",
   "vHEYtbabHFAxHEYtbabHFAlHEYxbabHFAnHEYxbabHFAnHEZbbabHFApHEZbbabHFAvHFBlbabHFAxHFBlbabHFAzHFB",
   "lbabHFBbHEZtbabHFBdHFBjbabHFBhHFBlbabHFBfHFBnbabHFBfHFBpbabHFBlHFCbbabHFBnHFCbbabHFBpHFCbbab",
   "HFBrHFAjbabHFBvHFAhbabHFBvHFAjbabHFBrHFApbabHFCbHFCpbabHFCdHFCpbabHFCfHFCpbabHFCfHFCvbabHFCh",
   "HFCvbabHFCjHFCvbabHFCfHFBdbabHFCfHFBfbabHFDpHFAvbabHFDrHFAxtacHFExHFEtHFCvbacHFEzHFEtHFEvbac",
   "HFFbHFEvHFExbacHFFdHFExHFDbbacHFFfHFExHFDdbacHFFhHFDfHFFdbacHFFjHFDhHFFdbacHFFlHFDjHFFdbacHF",
   "FjHFDlHFFhbacHFFlHFDnHFFjbacHFFlHFDpHFDfbacHFFnHFDrHFDjbacHFFdHFFpHFFrbacHFFfHFFtHFFrbacHFFh",
   "HFFvHFDpbacHFFjHFDzHFFvbacHFFlHFEbHFFxbacHFFnHFEdHFGbbacHFFpHFEfHFEfbacHFFrHFEhHFEhbacHFFpHF",
   "GfHFGfbacHFFrHFGhHFGhbacHFFtHFEnHFEnbacHFFxHFGlHFEpbacHFFzHFGnHFErbacHFGbHFGrHFEjbacHFGdHFEv",
   "HFGpbacHFGfHFExHFGrbacHFGhHFEzHFEzbacHFGjHFFbHFFbbacHFGhHFGzHFEvbacHFGjHFGzHFFfbacHFGlHFHbHF",
   "FhbacHFGlHFFjHFHfbacHFGnHFFlHFHhbacHFGpHFFnHFFnbacHFGrHFFpHFFfbacHFGpHFHpHFFrbacHFGrHFFtHFFt",
   "bacHFGtHFFvHFFvbacHFGvHFFxHFFpbacHFGvHFFzHFFzbacHFGxHFGbHFFrbacHFGzHFGdHFFvbacHFGnHFHzHFGfba",
   "cHFGpHFIbHFGhbacHFGpHFGjHFIfbacHFGrHFGlHFGlbacHFGpHFIjHFGnbacHFGrHFIlHFGfbacHFGtHFInHFGjbacH",
   "FGvHFIrHFIrbacHFGxHFItHFItbacHFGzHFIrHFGxbacHFHbHFItHFGzbacHFHdHFHbHFIxbacHFHfHFHdHFIzbacHFH",
   "fHFJbHFJdbacHFHhHFJdHFHhbacHFHjHFJfHFGzbacHFHlHFJjHFJhbacHFHnHFJlHFHnbacHFHpHFJjHFJnbacHFHrH",
   "FJlHFHrdacHFHxHFJvHFJrbacHFHvHFHzHFJxbacHFHxHFIbHFIbbacHFIbHFJzHFIdbacHFIdHFKbHFHxbacHFIfHFK",
   "fHFIhbacHFIhHFKhHFIjbacHFIjHFKjHFIdbacHFIlHFInHFIdbacHFInHFIpHFIhbacHFIhHFIrHFIrbacHFIjHFItH",
   "FItbacHFLbHFKpHFIlbacHFKzHFKvHFInbacHFLbHFKxHFIrbacHFLdHFKvHFIrbacHFLfHFKxHFIvbacHFLhHFJfHFI",
   "vbacHFLjHFJhHFIzbacHFLhHFJjHFIzbacHFLjHFLhHFJdbacHFLlHFJnHFJfbacHFKzHFLjHFJhbacHFKxHFLnHFJhb",
   "acHFLbHFLpHFJjbacHFKzHFLrHFJlbacHFJzHFLvHFJnbacHFKbHFJzHFJpbacHFJrHFLxHFJrbacHFJtHFMbHFJtbac",
   "HFJvHFKfHFJvbacHFKhHFKhHFJxbacHFKpHFKjHFJzbacHFKjHFMhHFKbbacHFKtHFKnHFMjbacHFKrHFMlHFKpbacHF",
   "LpHFKrHFKhbacHFKxHFKtHFKjbacHFKtHFMtHFMrbacHFKxHFMrHFKnbacHFLbHFMxHFKzbacHFLfHFLbHFLbbacHFLf",
   "HFNbHFLdbacHFLdHFNdHFNbbacHFNfHFNdHFKxbacHFNfHFNhHFKzbacHFLlHFNjHFLbbacHFLvHFLnHFLdbacHFNvHF",
   "NlHFLfbacHFLvHFLrHFLrbacHFMrHFNrHFLtbacHFNbHFLvHFLvbacHFNhHFNrHFLnbacHFLxHFNxHFLpBpacHFQjHFP",
   "fHFEhbacHFPlHFPhHFEjbadHFRpHFPjHFPjHFPdbadHFRrHFPnHFRpHFQxbadHFPlHFRhHFPlHFRdbadHFQtHFPpHFQl",
   "HFPnbadHFRdHFQzHFPjHFPrbadHFQpHFPtHFPhHFPnbadHFPnHFRdHFPvHFPtbacHFRbHFPxHFPnbarHFRdHFPzHFPpH",
   "KGxHFSfHFPzHFPzHFPtHKGxHFQvHFPzHFPnHFPtHKGxHFPrHFRhHFPzHFPxbahHFRxHFQbHKGzHFRxHFQbHFShHFQbHF",
   "PvbadHFRpHFFrHFSjHFQduaaHKHrbaaGABvccaHKGvcaaHKIxbaaHKGrbcaGAArBaaaGMFxbaaGMGbbaaHKGlbaaHKGn",
   "bcaHKKvcaaHKEpbaaHKEnbcaGADlccaGADxccaGAEnccaGAEvcgaGAErgaaHKIhbaaHKIfbabHKMzHIHzbabHKNbHIIb",
   "babHKNdHIIdbabHKNfHIIfbaaHKIlbaaHKInbaaHKIpbaaHKMpbaaGAGtdaaHKLtbaaHKLxbaaHKLpbaaHKNzbaaGMIx",
   "bcaHKNpcaaHKHjbaaHKHhbcaGAGfcaaHKOlbaaHKOhbcaHKObcaaHKNzbaaHKMxbaaHKMvbaaHKMzcaaHKKtbcaHKPdc",
   "aaHKNdfabHKPzHFYnbabHFZlHFYpbabHKQdHFYpcabHKQhHFYrcabHKQlHFYtbabHFZxHFYvbabHKQpHFYvbabHGAbHF",
   "YxbabHKQtHFYxbabHGAfHFYzbabHKQxHFYzbabHGAjHFZbbabHKRbHFZbbabHGAnHFZdbcaHGCzccaHGDbccaHGDdcca",
   "HGDfccaHGDhcaaHGDjbaaHGDlbcaHGDnccaHGDpcaaHGDrbaaHGDtbcaHGDvccaHGDxcaaHGDzbaaHGEbbcaHGEdcaaH",
   "GEfbaaHGEhbcaHGEjcaaHGElbaaHGEnbcaHGEpcaaHGErbaaHGEtbcaHGEvcaaHGExbaaHGEzbcaHGFbccaHGFdccaHG",
   "FfccaHGFhccaHGFjcaaHGFlbaaHGFnbcaHGFpcaaHGFrbaaHGFtbcaHGFvcaaHGFxbaaHGFzbcaHGGbcaaHGGdbaaHGG",
   "fbcaHGGhcaaHGGjbaaHGGlbcaHGGncaaHGGpbaaHGGrbcaHGGtcaaHGGvbaaHGGxbcaHGGzcaaHGHbbaaHGHdbaaHGHf",
   "baaHGGtbaaHGGvbaaHGGxbcaHGGzcaaHGHbbaaHGHdbcaHGHfcaaHGHhbaaHGHjbcaHGHlcaaHGHnbaaHGHpbcaHGHrc",
   "aaHGHtbaaHGHvbcaHGHxcaaHGHzbaaHGIbbcaHGIdcaaHGIfbaaHGIhbcaHGIjccaHGIlccaHGIncaaHGIpbaaHGIrba",
   "aHGItbabHGJhHGLxbabHGJjHGLzbabHGJlHGLzbabHGJnHGMbbabHGJpHGLzbabHGJrHGMbbabHGJtHGLzbabHGJvHGM",
   "bfCkaHLBbBgByaHKYpBaCsaHLBbBkcaGFZfcaaHLHlbcaGBAxcaaGBBxbaaGAItbaaGAJnbaaGAPvbaaGAPtbaaGAPrb",
   "aaGAPpbaaGAPnbaaGALdbaaGALbbaaGAKzbaaGANvbaaGAJnbaaGAQnbaaGAQlbaaGAQjbaaGAQhbcaGAQfcaaGAQdba",
   "aGAQbbaaGAPzbaaGAPxbaaGAPvbaaGAPtbaaGAPrbaaGAPpbaaGAPnbaaGAPlbaaGAPjbaaGAPfbaaGAPdbaaGAPbbka",
   "GAOzgaaGAOvbaaGAOrbaaGAOnbaaGAOjbiaGAOffaaGAOdbaaGAObbkaGANzgaaGANxbaaGANrbcaGAUrdcaGYTdcaaG",
   "YGfbaaGYTfbcaGYGfceaGYTjdkaGYGhgaaGYShbeaGYTxdaaGYSbbsaGYTznkaGYOfikaGYOjikaGYOnieaGYOrgcaHL",
   "IhcaaHLHrbabHLSnHJNpbaaHLIhbaaHLIlbaaGNCbcaaGJUpbgaGMKneaaGJIvbaaGJFpBOcDaaDcGuCsaDcHkuaDamB",
   "caDaqmaDaicaDaSzcaHPLpcaaHQXlbaaHPQbbaaHPVncaaHPPnbaaCRUhbaaHPPnbaaHPPrbcaHPVtcaaGVFrbaaHPVv",
   "baaHPVlbaaHPPtbaaHPVdbaaHPVjbaaHPVpbaaHPRdbaaHQTvbaaHPRfbaaHPVjbaaHPTfbcaHPQjcaaHPVhbaaGHDwb",
   "aaCUTpbaaHPVjbaaGHDsbaaHPTbbaaGHDqbaaHQYlbcaHPVdcaaHRJbbaaHPVbbaaGHDibcaHPUzcaaHPUxbaaHPRxba",
   "aHPSdbaaCRXbbaaHPSfbaaHPUrbaaGKBlcaaHPUjbcaHPTbcaaHPTxbeaHQKpdaaGHCcbaaGHDoBVaDwaEyIaBqaCmEH",
   "kCkaCmBGLcCkaCmDsBwaCcBJRqByaNKTlBasaNKZfBRqabnobabnmbacpkBcbacriBcbactgBcbacveBcbacxcBcDjab",
   "dGpbabdGrbachGtGbbachGvGdbaclGxGdbaclGzGfWeByaNQEnBaByaNQGnBaByaNQInBamaNQKniBiaNQKnsByaNQMn",
   "BaByaNQOnBadaNQQndaaNQQndaaNQQndcaNQQnegaNQQnfoaNQQnigaNQSnfdaNQSndkaNQSnhuaNQSnlByaNQUnBaBy",
   "aNQWnBacaNQYndgaNQYngoaNQYnjmaNQYniByaNRAnBacaNRCndgaNRCnfiaNRCngaaNRCnemaNRCniByaNREnBaByaN",
   "RGnBaByaNRInBaByaNRKnBaByaNRMnBaByaNROnBaByaNRQnBaByaNRSnBaByaNRUnBaByaNRWnBaByaNRYnBaByaNSA",
   "nBaByaNSCnBaaaNROnbaaNQUldBgaNPRpraaNPSjbmaNPRphaaMSUdbBgaNPTpraaNPTnbmaNPTphaaMSWnbaaNPVhba",
   "aNPVdbaaNPVbbaaNPUfbaaNPUrbaaNPUvbBgaNPWbraaNPWvbmaNPWbhaaMSYpbBgaNPYbraaNPXzbmaNPYbhaaMTAzb",
   "aaNPZtbaaNPZpbaaNPZnbaaNPYrbaaNPZdbaaNPZhbBgaNQAnraaNQBhbmaNQAnhaaMTDbbBgaNQCnraaNQClbmaNQCn",
   "haaMTFlbaaNQEfbaaNQEbbaaNQDzbaaNQDdbaaNQDpbaaNQDtbBgaNQEzraaNQFtbmaNQEzhaaMTHnbBgaNQGzraaNQG",
   "xbmaNQGzhaaMTJxbaaNQIrbaaNQInbaaNQIlbaaNQHpbaaNQIbbaaNQIfbBgaNQJlraaNQKfbmaNQJlhaaMTLzbBgaNQ",
   "LlraaNQLjbmaNQLlhaaMTOjbaaNQNdbaaNQMzbaaNQMxbaaNQMbbaaNQMnbaaNQMrbaaNQKnbaaNQKpdsaNTFfksaNTF",
   "zksaNTGtksaNTHnksaNTIhDDaqaNWNnjeaNWNlduaNWNjlaaNWNfbcaNWNdcaaJDQnbaaNWCpbaaNWMtbaaNWMrbaaNW",
   "BpbaaNWGdbaaNWDtbqaNWQbjcaNWPzccaNWPvcaaNWPtbkaNWPrgcaNWPpcaaNWKhbaaNWOxbaaNWPbbaaNWOjbaaNWI",
   "pbaaJDXlbaaNWIhDGlCoaCqBXgcaOFMvcaaOFMpbaaOFMlcaaOFKrbaaOFMlbaaOFMxbaaOFMfbaaOFKvbgaOFLleaaO",
   "FMzbaaOFMpbaaOFMbbaaOFNbbaaOFMdbaaOFNnbaaOFNjbcaOFOfcaaOFObbaaOFNzbaaOFNpbaaOFNnbaaOFNlbaaOF",
   "JnbaaOFDtbaaOFFtbaaOFJrcaaOFPhbaaOFPbcaaOFNddaaOFPjcaaOFNhbgaOFNxeaaOFPlbaaOFPbbaaOFOnbaaOFP",
   "nbaaOFOpcaaOFPvbcaOFQrcaaOFQncaaOFQbcaaOFPxhaaOFRnfaaOFRvcaaOFPtcdaOFQjdaaOFRxbaaOFRncaaOFRz",
   "baaOFRbcaaOFShdaaOFSzcaaOFSncaaOFSjcaaOFIrcaaOFOpcaaOFUfbaaOFTzcaaOFSbdaaOFUhbaaOFTpbaaOFSfb",
   "daOFSvdaaOFSvbaaOFUjbaaOFTzbaaOFTlbaaOFUlbaaOFTncaaOFUtbcaOFVpcaaOFVlcaaOFUzbaaOFUxbaaOFUvba",
   "aOFQxcaaOFNdccaOFWrcaaOFWlbaaOFWhbcaOFUncaaOFWhbaaOFWtbaaOFWbbaaOFUrceaOFVhdaaOFWvbaaOFWlbaa",
   "OFVxbaaOFWxbaaOFVzbaaOFXjbaaOFXfbcaOFYbcaaOFXxbaaOFXvbaaOFXlbaaOFXjbaaOFXhgaaOFZdbaaOFYxbaaO",
   "FYtcaaOFWzbaaOFYtbaaOFZfbaaOFYnbaaOFXdceaOFXtdaaOFZhbaaOFYxbaaOFYjbaaOFZjbaaOFYlbaaOFZvbaaOF",
   "ZrbcaOGAncaaOGAjbaaOGAhbaaOFZxbaaOFZvbaaOFZtWkabOMHlOMHtbabOMHlOMHvbabOMHlOMHxbabOMHlOMHzbab",
   "OMHlOMIbbabOMHlOMIdbabOMHlOMIfbabOMHlOMIhbabOMHlOMIjbabOMHlOMIlgacOMJfOMEvOMJdbacOMJhOMEvOMJ",
   "fbacOMJjOMEvOMJhbacOMJlOMEvOMJjbacOMJnOMEvOMJlbacOMJpOMEvOMJnbacOMJrOMEvOMJpbacOMJtOMEvOMJrb",
   "acOMJvOMEvOMJtbacOMJxOMEvOMJvbacOMJzOMEvOMJxbacOMKbOMEvOMJzbacOMKdOMEvOMKbbacOMKfOMEvOMKdbac",
   "OMKhOMEvOMKfbacOMKjOMEvOMKhbacOMKlOMEvOMKjbacOMKnOMEvOMKlbacOMKpOMEvOMKnbacOMKrOMEvOMKpbacOM",
   "KtOMEvOMKrbacOMKvOMEvOMKtbacOMKxOMEvOMKvbacOMKzOMEvOMKxbacOMLbOMEvOMKzbacOMLdOMEvOMLbbacNCDn",
   "OMFlNCDlbaaOMGtbaaOMFrbabOMGxOMGvbabOMFlOMFfcByaOMHhBaabOMItOMHrbabOMIlOMHtbabOMIbOMJfbabOMI",
   "dOMIdbacOMIlOMIlOMHzbabOMHzOMJnBbabOMKvOMLpbabOMKxOMLpbabOMKzOMKpBkabOMOlOMNzEiabNCMbNCPtbab",
   "NCHvNCHvbaaNCHtoaaLQUjbaaLWBjbaaMBTzbaaNCHrbaaMFTnbaaLXTtbaaKMVdbaaLXStbaaMFRzbaaLNXpbaaLFOz",
   "baaLOIdbaaMCYfbaaLSXlbaaMDNdbaaLOGrbaaMDCfbaaKWKrbaaLCOzbaaKKTnbaaLXYdbaaMBNbbaaLHEhbaaLQQlb",
   "aaLQBtbaaMGFxbaaMGFhbaaKIArbaaLUFbbaaMGCtbaaMBTdbaaLQIhbaaKKFfbaaLQWhbaaKZHxbaaKYOvbaaMBRzba",
   "aLHQvbaaLNHxbaaLNIbbaaLCPdbaaMCXpbaaMALjbaaKHHzfacNCYxLNFzNCYvbacNCYzMGHbNCYxbacNCZbMFXbNCYz",
   "bacNCZdLWBjNCZbbacNCZfLGAfNCZdbacNCZhLQXvNCZfbacNCZjLBJxNCZhbacNCZlMCQlNCZjbacNCZnLOQrNCZlia",
   "aLTAnbaaMBWdDQtsaOUOtDRLwaaTWJlbaaTWJxbaaTWJhbaaHEZpbaaTVNjbaaTVHlbaaTVGnbaaTVBdbaaTURzbaaTU",
   "PrbaaTUJtbaaTULrbaaUPUxbaaHBEbbaaTUCfbaaTUBtbaaTUApbaaTTZfbaaHCAlbaaUPTjbaaTUArbaaTTXvbaaHBX",
   "dbaaTTXfbaaTTWhbaaTWAjbaaTTVvbaaTTVfbaaCZLhbaaTTQlbaaTTPlbaaUPRjbaaTTLhbaaTTKnbaaTTHfbaaTTGx",
   "baaUPNpbaaTTAxbaaTTAvbaaTSYvbaaTSXfbcaTSWlcaaTSVfbaaTSRlbaaTSQxbaaTSQhbaaTSOlbaaTSNtbaaTSNrb",
   "aaTSNtbaaTSNvbaaGYHjbaaSWQbbaaTSIhbaaTSGtbaaGXJtbaaTSFzbaaTSFpbaaTSEbbaaTRSlbaaTSAjbaaTRZfba",
   "aTRWvbaaTRSlbaaTRMbbaaTRKdbaaTRFbbaaTRDxbaaTRBlbaaTRBnbaaTQZzbaaTQYrbaaTQYdbaaTQXbbaaTPWzbaa",
   "TQRzbaaTPXbbaaTQMjbaaTQJtbaaTTSzbaaTONdbaaTPJjbaaTPGnbaaTPErbaaTPOtbaaTPBzbaaTPCdbaaTOStbaaG",
   "QHdbaaTONnbaaTONfbaaTOMdbaaTOKrbaaTOKdbaaTOFhbaaGOYxbaaGOTxbaaTNUxbaaTNRjbaaTNQnbaaTNWrbaaTN",
   "LvbaaUOIjbaaUOHjbaaTMZpbaaTMVnbaaTMVpbaaGMQhbaaTMLnbaaTMJzbaaTMIxbaaTMIbbaaGLQvbaaTMHhbaaTMG",
   "vbaaTJTxbaaTMEvbaaUNYfbaaTMAfbaaTLZfbaaTLSzbaaTLWzbaaGJOnbaaTLJdbaaGJOnbaaTLFzbaaTLGhbaaTLFb",
   "bcaTKXjcaaUNLvbaaTKVlbaaTKSfbaaTKQrbaaTKNjbaaUNIhbaaGGWhbaaUNGlbaaTKIfbaaTKIbbaaTKHxbaaTKGlb",
   "aaCMJpbaaTKCpbaaGFPvbaaGFPxbaaSJPjbaaTKAdbaaTKAfbaaUNBpbaaFTWnbaaEKElbaaTJVpbaaTJUzbaaUMZvba",
   "aTJRnbaaTJNrbaaTJMzbaaTJKlbaaTJAbbaaUMTpbaaUMVzbaaTIYvbaaGCXrbaaTIVbbaaTILfbaaTIKzbaaTIKxbaa",
   "TILdbaaTIHrbaaTIGfbaaTIDnbaaTIErbaaTIDxbaaTIAjbaaTHYxbaaTHYrbaaTHWtbaaTHVzbaaTHQzbaaTHKpbaaT",
   "HHzbaaTGYnbaaFZUdbaaTHAdbaaTHFfbaaTGWzbaaTGUzbaaTGNpbaaFZCzbaaTGIzbaaTGQfbaaTGSlbaaUMDjbaaTG",
   "DvbaaTGChbaaTFZzbaaTGCzbaaULYzbaaTFMnbaaTFKjbaaFWBfbaaTFBjbaaTEGdbaaTETrbaaULMfbaaTEOhbaaULN",
   "rbaaULQnbaaTULzbaaTULvbaaTEGdbaaTENxbaaSKUrbaaUEWpbaaTEErbaaTEElbaaTEEbbaaTDZlbaaTEAjbaaFTHj",
   "baaULJtbaaTDNtbaaTDWvbaaTDHdbaaTDDhbaaFSUtbaaTDCtbaaTDLjbaaTCSpbaaULDzbaaTCPfbaaTCHvbaaTCClb",
   "aaTBNxbaaFRDxbaaTBKdbaaUKVbbaaTBExbaaFPQnbaaTBBdbaaUKRfbaaTAYzbaaTAVpbcaTATpcaaFOFrbaaGKOvba",
   "aFNXlbaaTAIpbaaFMOzbaaTAAbbaaSZZbbaaTAGzbaaSZTpbaaSZQpbaaSZMhbaaSZQnbaaSZNnbaaSZMlbaaSZLnbaa",
   "FMIhbaaSZRxbaaSYYrbaaSYTxbaaUKBlbaaSYMxbaaSYNhbaaFLBjbaaSZDhbaaSYArbaaFKQtbaaFKNdbaaSXUdbaaS",
   "XLjbaaSXNnbaaSXNvbaaUJUtbaaSXKjbaaSXGnbaaSXHbbaaSXCzbaaHCUdbaaSWRlbaaFIKhbaaSWKxbaaFHLfbaaSW",
   "AhbaaSVZjbaaSVXjbaaFFQzbaaSVTvbaaSVShbaaFEUbbaaFECzbaaSVAxbaaSUZrbaaUJAxbaaSUXvbaaUJAdbaaUJA",
   "fbaaSULpbaaSUKbbaaSUInbaaSUHbbaaSUBvbaaUITbbaaSTVbbaaFBArbaaSTTfbaaFATtbaaSTPnbaaGHHrbaaSTDj",
   "baaEYLvbaaEYKdbaaEXZlbaaUICpbaaUIBtbaaSSMhbaaEXMhbaaEXMlbaaEXJnbaaEXHpbcaSSJlcaaSSJnbaaSSGhb",
   "aaUHYtbaaSSBlbaaUHXxbaaUHRvbaaEVCxbaaSRMtbaaSRIbbaaSRDfbaaUHMhbaaETPfbaaSQSvbaaETGlbaaETDfba",
   "aSQOrbaaSQHrbaaUHGzbaaSQBhbaaSQApbaaSQAhbaaERChbaaEQFjbaaEQFlbaaSPOjbaaUGRjbaaEPLrbaaSOXzbaa",
   "SOXvbaaUGOvbaaEOVpbaaSODrbaaUGFtbaaSOCdbaaSOCpbaaSOAlbaaEMOnbaaSNSzbaaUFYtbaaSNLlbaaSNGzbaaS",
   "NBxbaaUFVdbaaEKPfbaaEKMxbaaUFSnbaaEKBvbaaSMEpbaaEJUfbaaSMCrbaaSLUzbaaSLUfbaaEIOvbaaEIJhbaaSL",
   "NlbaaEHZfbaaSLMjbaaFUBpbaaUFJzbaaSLHnbaaSLBjbaaUFGbbaaSKWzbaaTOBxbaaEGMpbaaEGLpbaaFTYhbaaFTX",
   "rbaaSKIlbaaSKIhbaaSAAnbaaUEZlbaaSJXrbaaSJYfbaaSJWxbaaTUEnbaaSJVnbaaSJVlbaaSJUtbaaSJRrbaaEDVh",
   "baaSJRxbaaSJNrbaaSJIjbaaSJCtbaaSJNlbaaSJBrbaaSIYnbaaSIPzbaaSJKbbaaSJAzbaaSJAxbaaSIZtbaaEDDbb",
   "aaECFjbaaECQzbaaUEMpbaaSIEvbaaSIEtbaaSICdbaaDXKjbaaSHWhbaaEAXlbaaUEJhbaaUEJbbaaEANlbaaDZRhba",
   "aUEInbaaSHErbaaSHDvbaaSHDbbaaSHCzbaaSGYdbaaSHAtbaaSGQnbaaSGTzbaaSGIlbaaSGOtbaaSGJrbaaSGHrbaa",
   "UEBfbaaSGAvbaaSFYlbaaUDYvbaaSFRhbaaSFRdbaaDVMxbaaSFIjbaaSFHxbaaUDUrbaaSFFxbaaURAzbaaDTUnbaaD",
   "TGlbaaUDKnbaaUDJxbaaSDZxbaaSDUbbaaSDIbbaaSCSnbaaDQUvbaaSCMbbaaSCKlbaaSCDpbaaSBWpbaaDOXlbaaHB",
   "EfbaaSBQjbaaSBRpbaaSBNrbaaHANtbaaSAWhbaaSAOrbaaDJXjbaaDJVjbaaRZOdbaaRZHbbaaRZErbaaDIWzbaaRZE",
   "bbaaRYIfbcaRXWbcaaRYDfbaaRWZzbaaRWXxbaaDFHdbaaRVVhbaaUBJfbaaRVSbbaaDEEdbaaUBDfbaaRUXrbaaTMDn",
   "baaRUQlbaaDBHpbaaDARhbaaUATfbaaUASrbaaRUChbaaCZFlbaaUAOhbaaCYUvbaaRTZhbaaRTZjbaaRTXdbaaCXYzb",
   "aaRTJbbaaUAExbaaRTDtbaaRSUdbaaRSSdbaaRSNpbaaTZTjbaaCTVtbaaRRSpbaaRQVlbaaRQGzbaaTZAbbaaTYXtba",
   "aRPZbbaaCPPrbaaTYXdbaaCPLpbaaCORhbaaCOHhbaaROZjbaaTYQhbaaROUtbaaROUlbaaROTzbaaROThbaaROSvbaa",
   "ROQbbaaCLSj"]

def disallowed : List String :=
  ["EyBfBCabgdhabauaPhaBmbBybdaCdhBbdgqwaHkaBwbChbDxnChbBxbpaBcbbaleBggCxaGfaibcbwahabcebjbcbehb",
   "dcafbzbdagdcbwahacacacbbafdcbdcbgeabgrjdajadawahacafbkadadbboebmghadaibcbwahacafbjbcbdgddcaf",
   "bsjcagcdaeccabaccccdcmdfcdaebbfbnvenadaxaqbjadaegcadacbebkgwadaxakafbjadaegcedaebkadlnadaBza",
   "dagdqbBaadascyajabbhcbdgabaifkbdlCgdBdBkcabafayabaxbfabahakbeBfCuaBkdBnaBkapanBkHqabebbOnaeb",
   "habaebBpaebBhaebhabaebpaCfaebCpbBgcBafDibgbYqaBccDlgwiyiulnadaclDqbkfkfBafDlgBreCsjBfamdmdbc",
   "BqbfkBsdBaflcCkbCnaBdblfkfobBubmtCzaGkhCicpcCkeBrblhBreUobgbBmbgbiabababaBfbCbapaobgatbdajao",
   "bucbgCceibBbancBinBhoFkdZqvluBotCPkbOseBtabebbCegcnyihahahahahahahahaEwBhBaaDllIgBpCmaDibDze",
   "BraDqaDijBvaQcaeaqaBQRscCdiNktHchIntCickfCehCshmfEmkBecDaaldBhaCdiobkbDzxBcjgbgbgihahaCidEwb",
   "kfQNslxdBxMNbOcbEcBlhlfeBaafabacacaZaBfBiaggqaBhbtaedfaFfbbaHicgbgbgbdchahqmaBaatacapboBhEte",
   "ddBtcDkancbBuBuEzBdcBxoBcdBkiBeeBreBeaBldoBpGcbkfBkdBkdBohCakmapahacalapahaccCalLziwjixgaBqa",
   "jCqgbbaBsaccbbxaCuhjBvtaceBhcBbeBbBlCedubByaceiadaBdbddkgjgCmBfBndmiCccBdbBbeBagelhDbCvCcBzm",
   "BzgBuhkfBmcBdhcHzBfaBqadbcpghjBgBuhBqvBaBlBctxiDadBkiCkafmzgkfCbashBniDsauksaBvCjhabaeapalfC",
   "hekfeaibcbwahacafakbcbdbbfbehbhcfkkabbbaBmakabbbaeakachcBcDoafBdCuhkGjCcbBmBhCrkkfnsCgfkfuBb",
   "BbbpdxHcCiDvDflibbbiacaBeacbmikCribBublBaCuhDfmCvgkDhiDjBinkfjaBtaojBdcBgbwaoCuhacaBscbacajh",
   "kfgacaBlacaggkfBsdkJlzgraBpcBdDgboBymBJnDxEhafkHoDXjDvmBPgpwjFXreWlKDcCgCOrVxgBfakdDdakfBebg",
   "jCsjkahavetQpCgHpDnezbzBrCxdCfgrClfkhiKXyBoBgDsElMWqeahacaLfobBcdbbnehPgDKtEdencjgkbiFVfJtcQ",
   "ufxoroBubxiEmChJmjBnbHmuCsErululDjizFeDhaCtacbbbcbeamabahaCnaebiahaBcaeafabchaNcbLgbBBaofapB",
   "QlBffgIeharbhacafeCkBgbEhBtcobkdcMhBfqCgebRvBqIfBrdbHjBfawhcIphaeacapaHpbqBoCydkdcBEeCqCxCjH",
   "leaBbacabbbakaeababfbdbababadacabbbababababacabbeahaeaeabakaredafarBzcKjBsdDwlpbpapaBlkGrCdB",
   "dmBsdjgcngFxBLxcrcncIkfmdbomdCehkfBohBebmdcnjBmNghobnclcCfabdqbmdkgFraDzBNoCLFcBfGMobIOcbLBl",
   "oXyDQvUwCFxHHzeMOoBOGXxJgLECt"]

def ignored : List String :=
  ["GraZxaFIlbCKhbDheDApaDgeffGKyaCZMppJfaGeaCTOxdHWxhBTLJhJf"]

end Unicode
end Rulebook
