/-!
Which characters are composed of a character and a mark, and in which order
marks follow each other.
-/

namespace Rulebook
namespace Unicode

/-- Composed characters in packed form: the distance from the previous one, the distance of
the first part from it, and the distance of the second part from the first mark. -/
def composites : List String :=
  ["HkJtabJvbbJxcbJzdbKbibKdkcKdBnbKbabKdbbKfcbKhibKbabKdbbKfcbKhicKbdbKbabKdbbKfcbKhdbKjidKdabK",
   "fbbKhcbKjibKdbdJtabJvbbJxcbJzdbKbibKdkcKdBnbKbabKdbbKfcbKhibKbabKdbbKfcbKhicKbdbKbabKdbbKfcb",
   "KhdbKjidKdabKfbbKhcbKjibKdbcKhibOrebMhebOvgbMlgbOzBobMpBobOzbbMpbbPdcbMtcbPhhbMxhbPlmbNbmbPn",
   "mbNdmdPtebNjebPxgbNngbQbhbNrhbQfBobNvBobQjmbNzmbQjcbNzcbQngbOdgbQrhbOhhbQvBnbOlBnbQxcbOncdRd",
   "dbOtdbRhebOxebRlgbPbgbRpBobPfBobRtheRzcbPpcbSbBnbPrBncSfbbPvbbSjBnbPzBnbSnmbQdmfSvbbQlbbSzBn",
   "bQpBnbTdmbQtmeTlebRbebTpgbRfgbTtlbRjldTvbbRlbbTzBnbRpBnbUdmbRtmbUfbbRvbbUjcbRzcbUnBnbSdBnbUr",
   "mbShmbUtBnbSjBnbUxmbSnmdVddbStdbVhebSxebVlgbTbgbVpkbTfkbVtlbTjlbVxBobTnBobVxcbTncbVxcbTncbWb",
   "ibWbbbTrbbWfhbTvhbWjmbTzmBiZxBbbXnBboBApBbbYfBbBdBElmbBCbmbBDzmbBBpmbBDrmbBBhmbBDjmbBAzmbTde",
   "bQtebThbbQxbbTlmbRbmbTpabRfacVrebThebFkebFkebVvebTledBFxmbBDnmbBFtmbBDjmbBFpBobBDfBobdebdebE",
   "fmbMombBDzmeBGzbbBEpbdBGtabBEjabXtbbVjbbXvbbVlbbWpbbUfbbBIjpbBFzpbBInrbBGdrbBIjpbBFzpbBInrbB",
   "GdrbBIjpbBFzpbBInrbBGdrbBIfpbBFvpbBIjrbBFzrbBIhpbBFxpbBIlrbBGbrbBIjpbBFzpbBInrbBGdrbBIvBmbBG",
   "lBmbBIxBmbBGnBmdBKdmbBHtmhBLhhbBIxhbBLdBnbBItBnbBAdebXtebBAjebXzebBKvhbBIlhbdebdebBKjebBHzeN",
   "aCEjbbwbcBabbBcbbBebcBmbcBubbCabbEmbBaBhiblibkbbqbbsbbubbCcbBaBhiblibzbbpbbjbfbbbdiBsBqabBoi",
   "cBgbebifBcbbwabBqglbgBgbgxCbabCdicClbebifCpbbCvabCbgydpbdpCwNdgbKtgoOtgbMjgbOxibMnidOvgbMlgd",
   "dibdibPfibMvibPhibMxidPnebNdebPribNhibPjibMziddibdibOribMhibPpebNfebPtibNjibPxlbNnlbPtibNjid",
   "PtibNjiLlkBGtbiBGubCuBGubeBGvbCuBGuFyBqBGucbBGurbBGuXabCJkibCJkdbCJkFvhCOkbjCPjOqbDEcdhDDebj",
   "DEdCudDJbCchDIcbhDIcblDJbEudDNyEqbDSvhbDSvbdDSwchDScbbDSvExhDWwbhDWwblDXvFmbECgcfEClbbECgbjE",
   "DbWmbEZuEDcbJEjcbJEjcbJEjcbJEjcbJEjebJEjBpbJEjcbJEjddJEjbdJEjcbJEjBAzWNtBlbWLjBlbWNvhbWLlhbW",
   "NzBjbWLpBjbWOdBxbWLtBxbWEbbbWBrbbWOhhbWLxhbWOlBjbWMbBjbWOpBxbWMfBxbWOtBnbWMjBnbWOxBtbWMnBtbV",
   "ZfabVZfabVZjbbVZjbbWPhBtbWMxBtbWPlBwbWNbBwbVElgbVElgbWPrhbWNhhbWPtebWNjebWPvhbWNlhbWPzBjbWNp",
   "BjbWQdibWNtibWQhBnbWNxBnbWQlBubWObBubWQnBwbWOdBwbWGjbbWDzbbWQrbbWOhbbWQvBjbWOlBjbWQzBxbWOpBx",
   "bWRbBjbWOrBjbdebdebWRjBxbWOzBxbWRnBtbWPdBtbWRpbbWPfbbWRthbWPjhbWRxBjbWPnBjbWRzhbWPphbWSdBjbW",
   "PtBjbWShBxbWPxBxbWSlBtbWQbBtbWIfbbWFvbbWIjibWFzibVZjabVZjabVZnbbVZnbbWTbbbWQrbbWTfhbWQvhbWTf",
   "hbWQvhbWTjBjbWQzBjbdebdebWTrBxbWRhBxbWTthbWRjhbWTxBjbWRnBjbVZvhbVZvhbVZnhbVZnhblhblhbWUlhbWS",
   "bhbWUpBjbWSfBjbWUtBxbWSjBxbWUxBtbWSnBtbWUzBkbWSpBkbWVdBwbWStBwbWVhBtbWSxBtbWAhbbWAhbbWAhibWA",
   "hibWVrdbWThdbWVvBjbWTlBjbWVxabWTnabWWbbbWTrbbWWfibWTvibWWjhbWTzhbWWnBjbWUdBjbWWphbWUfhbWWtib",
   "WUjibWWvhbWUlhbWWxcbWUncbWXbBjbWUrBjbWXfBxbWUvBxbWWhBxbWVlibWVhkbWVfkcWBfhfXAbBjbWXrBjbXAfjb",
   "WXvjbWQlbbWObbbWQpabWOfabWQtjbWOjjbWQxdbWOndbxcbxcbWMhbbWMhbbWMlabWMlabWMpjbWMpjbWMtdbWMtdbB",
   "rgbBrgbXBpBjbWZfBjbXBtjbWZjjbXBxdbWZndbWRvbbWPlbbWRzabWPpabWSdjbWPtjbWShdbWPxdbBbcbBbcbXCnjb",
   "XAdjbXCrBjbXAhBjbXCjBjbWZzBjbXCnjbXAdjbWSlbbWQbbbWSpabWQfabWStjbWQjjbWSxdbWQndbxcbxcbWDnbbWD",
   "nbbWDrabWDrabWDvjbWDvjbWDzdbWDzdbWEdBjbWEdBjbXDtBjbXBjBjbXDxjbXBnjbWDlbbWDlbbWDpabWDpabWDtjb",
   "WDtjbWDxdbWDxdbWEbBjbWEbBjbXEnabXCdabXErBjbXChBjbXEvjbXCljbXEzdbXCpdhURttbURvubdabdabhbbhbbl",
   "CoblCobUUvtbUUxubdabdabhbbhbblCoblCobUSrtbUStubdabdabhbbhbdUVttbUVvubdabdabhbbhbdUTttbUTvubd",
   "abdabhbbhbblCoblCobUWvtbUWxubdabdabhbbhbblCoblCobUUvtbUUxubdabdabhbbhbblCoblCobUXxtbUXzubdab",
   "dabhbbhbblCoblCobUVptbUVrubdabdabhbbhbdUYrtbUYtubdabdabhbbhbdUWjtbUWlubdabdabhbbhbblCoblCocU",
   "ZnucdachbclCobUXhtbUXjubdabdabhbbhbblCoblCobVAjtbVAlubdabdabhbbhbblCoblCobVAjacVAfacVAfacVAf",
   "acUZxacUZpacUZlaeJvCrbJvCrbJvCrbJvCrbJvCrbJvCrbJvCrbJvCrbJvCrbJvCrbJvCrbJvCrbJvCrbJvCrbJvCrb",
   "JvCrbIpCrbIpCrbIpCrbIpCrbIpCrbIpCrbIpCrbIpCrbIpCrbIpCrbIpCrbIpCrbIpCrbIpCrbIpCrbIpCrbExCrbEx",
   "CrbExCrbExCrbExCrbExCrbExCrbExCrbExCrbExCrbExCrbExCrbExCrbExCrbExCrbExCrbVFhgbVFjebFbCrbVFnC",
   "rbVFzCrcVFtCobbCrbVIjgbVIlebVInacVIrCrfXOjCobFzCrbVGhCrbVHbCrcVGnCobbCrbVJhacVJhacVJlCrbBbab",
   "BdbbBfCobVHdgbVHfebVFzaeVHpCobVGjCobVKfgbVKhebVKjadCoabCmbbCkCobVHlgbVHnebVHdacVIbtbVIdubVHx",
   "CobVHnCobVKngbVKpebVKracVLdubXRtafJbCrbVIpCrbVIhCrcVIvCobbCrbVMfacVLpacVLtCrPytCebrCetBzCeBf",
   "gCebmCebgCeCbbCefbCedbCeybCecbCeBbjCedbCeddCecbCexZWfCecbCelClCebZXjCebZXhCebxCebxCeddCebdCe",
   "ddCebdCehlCeblCeddCebdCeddCebdCeBjtCebjCebjCebhCeBxHrCebHrCebGfCebGfCehEhCebEhCebEhCebEhCeFB",
   "rbRGzcbRGzcbRGzcbRGzcbRGzcbRGzcbRGzcbRGzcbRGzcbRGzcbRGzcbRGzdbRGzcbRGzcbRGzhbRGzbdRHacbRGzbd",
   "RHacbRGzbdRHacbRGzbdRHacbRGzbdRHaxFzRGzkbRGzobRGzcbRGzcbRGzcbRGzcbRGzcbRGzcbRGzcbRGzcbRGzcbR",
   "GzcbRGzcbRGzdbRGzcbRGzcbRGzhbRGzbdRHacbRGzbdRHacbRGzbdRHacbRGzbdRHacbRGzbdRHaxFzRGzdpRGzbpRG",
   "zbpRGzbpRGzebRGzDGRsbDYDucbDYDuplDYDuFbgDYHzbgDYHzUuhDZCobjDZDnOddDZRebfDZQucjDZRhJsdEAApbdE",
   "AApBIjfEBJc"]

/-- Ranges of marks in packed form: the gap before the range, its length less one, and the class
of its marks. -/
def markClasses : List String :=
  ["BDouIwaaIyadImaaIyaaIiaeImabHuadImabHuakImaebadImahIwaaJgaaIwacImacIwabImbcIwadImaaIwaaIyabI",
   "maaIwaaIzabJaaaIzabJaaaIzamIwKpeIwKfaImadIwaaImacIwaaIoaaImafIwafImabIwaaImabIwaaIoaaIuaaIwa",
   "akaalaamaanaaoaapaaqaaraasabtaauaavaawbaxbayaazbaIwaaImbasCuhIwaaBeaaBfaaBgBwaBbaaBcaaBdaaBe",
   "aaBfaaBgaaBhaaBiabIwabImaeIwaaImabIwaaImqaBjDxgIwcdIwaaImaaIwcbIwbaImabIwaaImBjaBkBeaIwaaIma",
   "bIwaaImabIwacImaaIwabImaaIwaaImacIwaaImaaIwaaImaaIwaaImaaIwaaImabIwGegIwaaImaaIwjaImydIwbiIw",
   "bcIwbeIwBrcImCiaIwacImadIwBqeIwaeImanIwbaImabIwaaImabIwaaImacIwacImaaBbaaBcaaBdacIwaaImabIwa",
   "bImaeIwCiahqajdaIwaaImabIwDzahqajBwaIwCjahqajEgahqajEgahqajExajEgahqajhaDgaaDnDxahqajEfbjqaj",
   "EuajEfbDzaajndEdEebEoaajndEsCybImBbaImbaImbaIiCdaEzaaFabaFcfdFacaFabbIwaajbbIwCkaImEiahbbjDe",
   "aImBBrcIwBKmbjBeajGbajkaIwHvaIuFnaIoaaIwaaImIlaIwaaImCtajuhIwcaImBweIwafImabIwaaImbbImabIwab",
   "ImaeIwaaImadIwDxahpajBmaIwaaImagIwCcbjCgahlbjCpahFwcIwbabaeImabIwadImaaIwbgbeaImgaIwdbIwHqbI",
   "waaImagIwaaImabIwaaJaaaIgaaImaaHuaBkIwaaIyabIuaaImaaIkaaIwaaIzaaImaaIwaaImBBsbIwabbadIwacbab",
   "IweaIwdbbaaIwaaImaaIwabbadImaaIwEOccIwFlajDsBfIwViaIkaaIuaaIyaaIoabIqEbbiBSQeaIwejIwBgbIwDcb",
   "IwKqajBlajFvajBbrIwCfcImBlajDrahmajJfaIwbbIwaaImcbIwfbIwbaIwCaajJmajBDZsaBaBDpgIwagImabIwBLl",
   "aImIsaImFteIwCMsaImbaIwBoaIwaabaaImeajGjaIwaaImWbdIwOxbIwFxbImacIwaaImaaIwadImBxaIwaaImaaIwa",
   "aImHkajBpajoajCfajaahCrcIwBwbjCkahCyajjahEcajaahGwahaajDcbhqajygIwdeIwHxajdahxaIwDvajaahJraj",
   "aahEwajEoajaahElajKjajaahJybjeahGaajDfajsajDdajQfajJyahbbjDdajBDHoebChgIwBUnbgBDAyabHWobIiac",
   "bdaIsaeIiihImceIwabImBedIwFscIwFFfgIwbqIwcgIwbbIwbeIwKbgIwOlaIwCjdIwCFwgImEffIwaah"]

end Unicode
end Rulebook
