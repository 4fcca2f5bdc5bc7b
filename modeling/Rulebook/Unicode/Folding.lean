/-!
The characters that are equal when case does not count.
-/

namespace Rulebook
namespace Unicode

/-- Groups of equal characters in packed form: the distance to the first of the
previous group, how many more than two belong to it, and the distances between them. -/
def foldGroups : List String :=
  ["CnaBgbaBgbaBgbaBgbaBgbaBgbaBgbaBgbaBgbaBgbbBgMKlbaBgbaBgbaBgbaBgbaBgbaBgbaBgbbBgKibaBgbaBgba",
   "BgbaBgbaBgbaBgbaBgDnbBCpBglaBgbaBgbaBgbaBgbaBgbbBgMFubaBgbaBgbaBgbaBgbaBgbaBgbaBgbaBgbaBgbaB",
   "gbaBgbaBgbaBgbaBgbaBgbaBgbaBgcaBgbaBgbaBgbaBgbaBgbaBgbaBgbaLGxBgaErbabcabcabcabcabcabcabcabc",
   "abcabcabcabcabcabcabcabcabcabcabcabcabcabcabcabeabcabcabdabcabcabcabcabcabcabcabdabcabcabcab",
   "cabcabcabcabcabcabcabcabcabcabcabcabcabcabcabcabcabcabcabdabcabcabdaHnbaIcbabcabcaHybabcaHxb",
   "aHxbabdaDbbaHubaHvbabcaHxbaHzbaDtbaIdbaIbbabcaGhcaIdbaIfbaFabaIgbabcabcabcaIkbabcaIkdabcaIkb",
   "abcaIjbaIjbabcabcaIlbabeabdaCefbbbdbbbdbbbdabcabcabcabcabcabcabcabdabcabcabcabcabcabcabcabca",
   "bdbbbdabeabcabcabcabcabcabcabcabcabcabcabcabcabcabcabcabcabcabcabcabeabcabcabcabcabcabcabcab",
   "cabiaPZfbabdaPZcbaPZzbaPZzbabdaCrbaCtbabcabcabcabcabcaPYtbaPYqbaPYskaCKPrfaCKPneaCKOebaCKPge",
   "aCKPgbaPXfbaCKPdfaPXlmaPWpfaCKPffaCKOgwaCKNlbaCKNiGlcDgBgKPxBrabcabeabfaFabaFabaFacaEmhaBmca",
   "BlbaBlbaBlcaCmcaClbaClcaBgbbBgBebaBgbaBgbbBgCmbaBgbaBgbcBgzBjcbBgCcbaBgcaBgbaBgbaBgbbBgwbbBg",
   "BwcbBfbbaBgbaBgbbBgpbaBgbaBgbbBgLDdbaBgbaBgBkaijabcabcabcabcabcabcabcabcabcabcabcabeahfabdab",
   "gaDcbaDcbaDcbaDcbaDcbaDcbaDcbaDcbaDcbaDcbaDcbaDcbaDcbaDcbaDcbaDcbaBgbaBgbbBgJFibaBgbbBgJFhba",
   "BgbaBgbaBgbaBgbaBgbaBgbaBgbaBgbaBgbbBgJEybaBgbaBgbbBgJEwbcBgJEwbbaBgbaBgbaBgbaBgbaBgbaBgbaBg",
   "bbBgJEqbaBgbaBgbaBgbaBgbaBgBxabcbbJDscabcabcabcabcabcabcabcabcabcabcabcabcabcabcabkabcabcabc",
   "abcabcabcabcabcabcabcabcabcabcabcabcabcabcabcabcabcabcabcabcabcabcabcabcapbabcabcabcabcabcab",
   "cabdabcabcabcabcabcabcabcabcabcabcabcabcabcabcabcabcabcabcabcabcabcabcabcabcabcabcabcabcabca",
   "bcabcabcabcabcabcabcabcabcabcabcabcabcabcabcabcabcabcabdaBwbaBwbaBwbaBwbaBwbaBwbaBwbaBwbaBwb",
   "aBwbaBwbaBwbaBwbaBwbaBwbaBwbaBwbaBwbaBwbaBwbaBwbaBwbaBwbaBwbaBwbaBwbaBwbaBwbaBwbaBwbaBwbaBwb",
   "aBwbaBwbaBwbaBwbaBwbaBwEHeaKTkbaKTkbaKTkbaKTkbaKTkbaKTkbaKTkbaKTkbaKTkbaKTkbaKTkbaKTkbaKTkba",
   "KTkbaKTkbaKTkbaKTkbaKTkbaKTkbaKTkbaKTkbaKTkbaKTkbaKTkbaKTkbaKTkbaKTkbaKTkbaKTkbaKTkbaKTkbaKT",
   "kbaKTkbaKTkbaKTkbaKTkbaKTkbaKTkcaKTkgaKTkdaELsbaELsbaELsbaELsbaELsbaELsbaELsbaELsbaELsbaELsb",
   "aELsbaELsbaELsbaELsbaELsbaELsbaELsbaELsbaELsbaELsbaELsbaELsbaELsbaELsbaELsbaELsbaELsbaELsbaE",
   "LsbaELsbaELsbaELsbaELsbaELsbaELsbaELsbaELsbaELsbaELsbaELsbaELsbaELsbaELsdaELsbaELsbaELsZxaCF",
   "MubaCFMubaCFMubaCFMubaCFMubaCFMubaCFMubaCFMubaCFMubaCFMubaCFMubaCFMubaCFMubaCFMubaCFMubaCFMu",
   "baCFMubaCFMubaCFMubaCFMubaCFMubaCFMubaCFMubaCFMubaCFMubaCFMubaCFMubaCFMubaCFMubaCFMubaCFMuba",
   "CFMubaCFMubaCFMubaCFMubaCFMubaCFMubaCFMubaCFMubaCFMubaCFMubaCFMubaCFMubaCFMubaCFMubaCFMubaCF",
   "MubaCFMubaCFMubaCFMubaCFMubaCFMubaCFMubaCFMubaCFMubaCFMubaCFMubaCFMubaCFMubaCFMubaCFMubaCFMu",
   "baCFMubaCFMubaCFMubaCFMubaCFMubaCFMubaCFMubaCFMubaCFMubaCFMubaCFMubaCFMubaCFMubaCFMubaCFMuba",
   "CFMubaCFMubaCFMubaibaibaibaibaibaiDGlbCAEkbJhaCAGyeaFQsraCAIyEkabcabcabcabcabcabcabcabcabcab",
   "cabcabcabcabcabcabcabcabcabcabcabcabcabcabcabcabcabcabcabcabcabcabcabcabcabcabcabcabcabcabca",
   "bcabcabcabcabcabcabcabcbbCgcabcabcabcabcabcabcabcabcabcabcabcabcabcabcabcabcabcabcabcabcabca",
   "bcabcabcabcabmabcabcabcabcabcabcabcabcabcabcabcabcabcabcabcabcabcabcabcabcabcabcabcabcabcabc",
   "abcabcabcabcabcabcabcabcabcabcabcabcabcabcabcabcabcabcabcabcabcabcaibaibaibaibaibaibaibaijai",
   "baibaibaibaibailaibaibaibaibaibaibaibaijaibaibaibaibaibaibaibaijaibaibaibaibaibaimaicaicaica",
   "ijaibaibaibaibaibaibaibaijaCwbaCwbaDibaDibaDibaDibaDwbaDwbaEybaEybaEibaEibaEwbaEwdaibaibaiba",
   "ibaibaibaibaijaibaibaibaibaibaibaibaijaibaibaibaibaibaibaibaijaibaicajqajnaibaipaibaieahoajM",
   "haBcBuaqbaqbaqbaqbaqbaqbaqbaqbaqbaqbaqbaqbaqbaqbaqbaquabBFnaBabaBabaBabaBabaBabaBabaBabaBaba",
   "BabaBabaBabaBabaBabaBabaBabaBabaBabaBabaBabaBabaBabaBabaBabaBabaBabaBaCSvaBwbaBwbaBwbaBwbaBw",
   "baBwbaBwbaBwbaBwbaBwbaBwbaBwbaBwbaBwbaBwbaBwbaBwbaBwbaBwbaBwbaBwbaBwbaBwbaBwbaBwbaBwbaBwbaBw",
   "baBwbaBwbaBwbaBwbaBwbaBwbaBwbaBwbaBwbaBwbaBwbaBwbaBwbaBwbaBwbaBwbaBwbaBwbaBwbaBwBxabhabcabca",
   "bhabdablabcabcabcabcabcabcabcabcabcabcabcabcabcabcabcabcabcabcabcabcabcabcabcabcabcabcabcabc",
   "abcabcabcabcabcabcabcabcabcabcabcabcabcabcabcabcabcabcabcabcabcabjabcabfabBTYkabcabcabcabcab",
   "eabcabcabcabcabcabcabcabcabcabcabcabcabcabcabcabcabuabcabcabcabcabcabcabcabcabcabcabcabcabca",
   "bFgabcabcabcabcabcabcabeabcabcabcabcabcabcabcabcabcabcabcabcabcabcabcabcabcabcabcabcabcabcab",
   "cabcabcabcabcabcabcabcablabcabdabcabcabcabcabfabfabcabcaBwcabcabcabcabcabcabcabcabcabcablaBJ",
   "sbabcabcabcabcabcabcabcabfabcabhabgabcabBdabBHAiaBgbaBgbaBgbaBgbaBgbaBgbaBgbaBgbaBgbaBgbaBgb",
   "aBgbaBgbaBgbaBgbaBgbaBgbaBgbaBgbaBgbaBgbaBgbaBgbaBgbaBgbaBgBVaaBobaBobaBobaBobaBobaBobaBobaB",
   "obaBobaBobaBobaBobaBobaBobaBobaBobaBobaBobaBobaBobaBobaBobaBobaBobaBobaBobaBobaBobaBobaBobaB",
   "obaBobaBobaBobaBobaBobaBobaBobaBobaBoFhaBobaBobaBobaBobaBobaBobaBobaBobaBobaBobaBobaBobaBoba",
   "BobaBobaBobaBobaBobaBobaBobaBobaBobaBobaBobaBobaBobaBobaBobaBobaBobaBobaBobaBobaBobaBobaBoGb",
   "aBnbaBnbaBnbaBnbaBnbaBnbaBnbaBnbaBnbaBnbaBncaBnbaBnbaBnbaBnbaBnbaBnbaBnbaBnbaBnbaBnbaBnbaBnb",
   "aBnbaBnbaBncaBnbaBnbaBnbaBnbaBnbaBnbaBncaBnbaBnCQdaCmbaCmbaCmbaCmbaCmbaCmbaCmbaCmbaCmbaCmbaC",
   "mbaCmbaCmbaCmbaCmbaCmbaCmbaCmbaCmbaCmbaCmbaCmbaCmbaCmbaCmbaCmbaCmbaCmbaCmbaCmbaCmbaCmbaCmbaC",
   "mbaCmbaCmbaCmbaCmbaCmbaCmbaCmbaCmbaCmbaCmbaCmbaCmbaCmbaCmbaCmbaCmbaCmENmaBgbaBgbaBgbaBgbaBgb",
   "aBgbaBgbaBgbaBgbaBgbaBgbaBgbaBgbaBgbaBgbaBgbaBgbaBgbaBgbaBgbaBgbaBgbaBgbaBgbaBgbaBgbaBgbaBgb",
   "aBgbaBgbaBgbaBgBGJxaBgbaBgbaBgbaBgbaBgbaBgbaBgbaBgbaBgbaBgbaBgbaBgbaBgbaBgbaBgbaBgbaBgbaBgba",
   "BgbaBgbaBgbaBgbaBgbaBgbaBgbaBgbaBgbaBgbaBgbaBgbaBgbaBgBULlaBibaBibaBibaBibaBibaBibaBibaBibaB",
   "ibaBibaBibaBibaBibaBibaBibaBibaBibaBibaBibaBibaBibaBibaBibaBibaBibaBibaBibaBibaBibaBibaBibaB",
   "ibaBibaBi"]

end Unicode
end Rulebook
