import PublishGate.Pattern.Unicode.Packed

/-! # Boundaries of characters, words and sentences in Unicode 16

The classes that the rules for text boundaries sort characters into. What is in none of them has no
name here. -/

namespace PublishGate.Pattern.Unicode

def graphemeBreaks : List Packed := [
  ⟨["cn", "control"],
   ["ajbbbrIFHanaHRoaKVraH*CacbygHrpH30paNqlTHupHIJadLMph4R0fFJaJFNqJWp"]⟩,
  ⟨["cr"],
   ["na"]⟩,
  ⟨["ex", "extend"],
   ["4aJpOtgOhHmbabbbbbaIikHquqaJfgcfcbbdHdaEAIBkHAijaydbibcbeHlcHBiHkxbFHxabaeheadgkbDaHAaba",
    "cdiajakbAacbHzaebebccdaEbdalbHzaeebbeaubwfbaHAabbbdiahckbEaHBabamajaHiadaHxabcfcbdhblbDa",
    "HAacbbadcbdhblbCbHzbbacdiajakbDaIiaeaccbaiaIracgmhJcacilgIjbBababaHxnbebbfkbHdjaJgdbfbbc",
    "bzbecqdnacbgapa1Fc9sdCcDbEbIabbgiackjaHncbaJvbHcaJwcebjagcMBbcaHAabgbabachgjcaHqEHrdHqje",
    "cHgimbHadcfHyabbdabeHyhcbKycbmbgeagadbMgHFWmaMdHaI*EcKnaJaFXkfJjb9UudbjHabIqbOqadaeazbfa",
    "KxbArnaHghzkbaHmcHqacdcbcaHeaIdfcbcbmaiaHpaHtabccbfbbaHkbiaNoacaeaZ5qa3bpqpRobYDaNcaKveH",
    "0gcbbfdHiceaLfbXDdIbePDbIpdIgkHrdJBaHwoHjacbkcHrdcbhaHDcHeebhHEambHuibaidcaIFccdgacaKDad",
    "hvbHzbbabamajaogdeIdacfbacabcecbaobIvhccbaxaIracfbacabbbbNlacdgbbbBbIvhcabbJkabachJfabac",
    "dbeOdibbNvakdeaKqdcbeaHajHifcdiajfccHombbSwgbfbaIsvcgbbbbJAfdabbbgbaIibdabaQBblbHuefcxaL",
    "NfagoRMildcIUaeHBgHGyaHFdIralbZLlbKZbHncwWEedfihcgEdKucH9BHweHriaoaweboHQqgbqcgbbbeJeaLa",
    "gRxaHDdVCdNEb3agJngI1qe4JHaIFKaNp"]⟩,
  ⟨["l"],
   ["KOaIFHMGaC"]⟩,
  ⟨["lf"],
   ["ka"]⟩,
  ⟨["lv"],
   ["HRGaaBaBaBaBaBaBaBaBaBaBaBaBaBaBaBaBaBaBaBaBaBaBaBaBaBaBaBaBaBaBaBaBaBaBaBaBaBaBaBaBaBaB",
    "aBaBaBaBaBaBaBaBaBaBaBaBaBaBaBaBaBaBaBaBaBaBaBaBaBaBaBaBaBaBaBaBaBaBaBaBaBaBaBaBaBaBaBaB",
    "aBaBaBaBaBaBaBaBaBaBaBaBaBaBaBaBaBaBaBaBaBaBaBaBaBaBaBaBaBaBaBaBaBaBaBaBaBaBaBaBaBaBaBaB",
    "aBaBaBaBaBaBaBaBaBaBaBaBaBaBaBaBaBaBaBaBaBaBaBaBaBaBaBaBaBaBaBaBaBaBaBaBaBaBaBaBaBaBaBaB",
    "aBaBaBaBaBaBaBaBaBaBaBaBaBaBaBaBaBaBaBaBaBaBaBaBaBaBaBaBaBaBaBaBaBaBaBaBaBaBaBaBaBaBaBaB",
    "aBaBaBaBaBaBaBaBaBaBaBaBaBaBaBaBaBaBaBaBaBaBaBaBaBaBaBaBaBaBaBaBaBaBaBaBaBaBaBaBaBaBaBaB",
    "aBaBaBaBaBaBaBaBaBaBaBaBaBaBaBaBaBaBaBaBaBaBaBaBaBaBaBaBaBaBaBaBaBaBaBaBaBaBaBaBaBaBaBaB",
    "aBaBaBaBaBaBaBaBaBaBaBaBaBaBaBaBaBaBaBaBaBaBaBaBaBaBaBaBaBaBaBaBaBaBaBaBaBaBaBaBaBaBaBaB",
    "aBaBaBaBaBaBaBaBaBaBaBaBaBaBaBaBaBaBaBaBaBaBaBaBaBaBaBaBaBaBaBaBaBaBaBaBaBaBaBaBaBaBaBaB",
    "aBaBaBaBa"]⟩,
  ⟨["lvt"],
   ["HRGbAbAbAbAbAbAbAbAbAbAbAbAbAbAbAbAbAbAbAbAbAbAbAbAbAbAbAbAbAbAbAbAbAbAbAbAbAbAbAbAbAbAb",
    "AbAbAbAbAbAbAbAbAbAbAbAbAbAbAbAbAbAbAbAbAbAbAbAbAbAbAbAbAbAbAbAbAbAbAbAbAbAbAbAbAbAbAbAb",
    "AbAbAbAbAbAbAbAbAbAbAbAbAbAbAbAbAbAbAbAbAbAbAbAbAbAbAbAbAbAbAbAbAbAbAbAbAbAbAbAbAbAbAbAb",
    "AbAbAbAbAbAbAbAbAbAbAbAbAbAbAbAbAbAbAbAbAbAbAbAbAbAbAbAbAbAbAbAbAbAbAbAbAbAbAbAbAbAbAbAb",
    "AbAbAbAbAbAbAbAbAbAbAbAbAbAbAbAbAbAbAbAbAbAbAbAbAbAbAbAbAbAbAbAbAbAbAbAbAbAbAbAbAbAbAbAb",
    "AbAbAbAbAbAbAbAbAbAbAbAbAbAbAbAbAbAbAbAbAbAbAbAbAbAbAbAbAbAbAbAbAbAbAbAbAbAbAbAbAbAbAbAb",
    "AbAbAbAbAbAbAbAbAbAbAbAbAbAbAbAbAbAbAbAbAbAbAbAbAbAbAbAbAbAbAbAbAbAbAbAbAbAbAbAbAbAbAbAb",
    "AbAbAbAbAbAbAbAbAbAbAbAbAbAbAbAbAbAbAbAbAbAbAbAbAbAbAbAbAbAbAbAbAbAbAbAbAbAbAbAbAbAbAbAb",
    "AbAbAbAbAbAbAbAbAbAbAbAbAbAbAbAbAbAbAbAbAbAbAbAbAbAbAbAbAbAbAbAbAbAbAbAbAbAbAbAbAbAbAbAb",
    "AbAbAbAbA"]⟩,
  ⟨["pp", "prepend"],
   ["HWafMxaHraSabIqaHJlaIG7oapaNubWnaHRnabaNyaIjf1CaTBa"]⟩,
  ⟨["ri", "regionalindicator"],
   ["J8Vgz"]⟩,
  ⟨["sm", "spacingmark"],
   ["IOdaHxaccidbbHsbHBbgbcbHwaHAcIcaHAciabbHvbHCagbcbJsabbdcbcHucHDdHDbHAacabbHoaobHBbfcbcHv",
    "bImbggtbHFaJFaKkbHFaLrajbzbHmaH5rahhbbQAdccebbfNabHAabavfKraHzdIaaEaebHFaccbaHvhibLlavaH",
    "I5lbcaIybHspKoaHqaHqbebcbJpbcbyaKDacbfaNnbbbbbba5GtabaJFaHncebJtaybHBaHqcjaoaIDcdbLmcFbH",
    "BabdcbcbvbIvbpabbJhcibdaJlbgabbbacaNobgdcaJrcibbaJnabbJoahaOfcjaNyebbhabaKocideaIuaDbHEa",
    "SxaoaJkahacaMveebbaQEbmaHqbibWVkcJXeHw"]⟩,
  ⟨["t"],
   ["KTiIxHXUlHq"]⟩,
  ⟨["v"],
   ["KRaIhHXWiwHLSCadd"]⟩,
  ⟨["zwj"],
   ["OGna"]⟩]

def wordBreaks : List Packed := [
  ⟨["le", "aletter"],
   ["IbzgzHpakaeafwbEbUFgHbJqebbcdbagabcbabtbIsbKkiLfbHfcdbabHibaJiaHmHkHdbbJcbapbhbkccapbbDD",
    "IylayHajbeafveajadaxyhkfxbfrHjHAHvdasahjppehcbcvbgbadddaqanbbcobkaifebcvbgbbbbbbFdbatcqi",
    "bcbvbgbbbedasapbxalhcbcvbgbbbedaEbbcparabfdcbddbbabbdbdcdlwaHuhbcbwbpdaAccacbEaehbcbwbjb",
    "edaFbbbpbribcbHicaqafcicyffrdxbibacgPzaHFhbHdBeOtHfbafacHkbQmbdcgbabdcHibdcHabdcgbabdcob",
    "HybdcIcHfpqIvcfdZlcqbzfIkdkhrnsorombcLpIyhecHbbafIfkENbwNoHorhHwDnbkHlAHdHjckHdckfHkccHj",
    "dbfbbdafLFIaOvcfcHfcfchbabababEcHubgbadcbgddcfemfcbgJuanaqmJfaeacjbadegabababdbkcdfeearH",
    "i5nHtH4wNegddbmHfbafacHxhaqwjgbgbgbgbgbgbgbgIqaUvaHvbMiHkbIDrF7YaHKmIdHncOmdpkbuHoqEcIpy",
    "MfcbbabhvpbcbdbwDHtoHrHEfdabblBkwzChHoCaHqHixcbhKukhcmfcfcfjgbgbHzgJsDQ9dmweHqO4egmeHyJb",
    "HbRksHFcHvHilJuebKgHezgzIfEdfcfcfccHdlbzbsbbbocnHcJAIfHuOlCdHqHpFnDfHfkDcHdehbeHkKDsHdeH",
    "deHhiHtmkbobgbbbkbobgbbdHtmPwjvkhyfbHjbiIffcabHlbbdacwkwjEIbsbbkvkzIgHxgbIaapdbcbCHkCdCH",
    "dhbBBHvkvksnrJoIiHxHsnHsnHdHgBjwNAHjgbqcHBCkaivHkrHouBwmHuHzbcanHmHayAHdDacaiHcdamHpodva",
    "baHdrbytbHFgbabdbobjhHoHghcbcvbgbbbedasameEjbacabHfbazabaHmHusducEHpubbaLyHoHjdHeHpuaHBH",
    "knaQhHlJuHFFhcachbbbxpabaIEhcHgqabaCakHhhavalHntasIiMhHaFibHeraHrDJqgbbbHfvazfbbbFoaQhsp",
    "abmbHbJCaIp8zJgJorMdIYmJapHHprfzJ8AfYgM1zDH3cXyhErIorDsHpqdFufsTqHmMtHFKaIkfaIcmIabbaZGC",
    "JkfmdihjL7gIubIgbbcacbcdblbabgbIabdchbgbBbdbebadgbQtcybybEbybEbybEbybEbybhH5uEgfOfHDKsHm",
    "kgqaQbDsHlVeBNeDcaVpgbdbbbobMeHBIdhaHLudbAbbbacabjbdbabagaeabababcbbbacabababababbbacdbg",
    "bdbdbabjbqfcbebqZuzgzgz"]⟩,
  ⟨["cr"],
   ["na"]⟩,
  ⟨["dq", "doublequote"],
   ["Hca"]⟩,
  ⟨["extend"],
   ["4aJpOtgOhHmbabbbbbaIikHquqaJfgcfcbbdHdaEAIBkHAijaydbibcbeHlcHBiHkxbHaHwcbrbgkbDcHyabgcbc",
    "cjakbAaccHyabeebccdaEbdalcHyabhbcbcubwfbcHyabgcbcchckbEaHBedcbdjaHieHxabgbcbdhblbDcHyabg",
    "bcbdhblbpamdHxbbgbcbdjakbDcIgaefbabhsbHDacgmhJcacilgIjbBababaebHrtbbfkbHdjaJetxdecbccgdd",
    "nlbakd1Fc9sdCcDbEbIaFjaHncbaJvbHcaJwlelMBeHzjbCcaHqEHreHpqHgimcEmHynHqtKycbueagaccMgHFWm",
    "aMdHaI*EcKnaJaFXkfJjb9UudbjHabIqbOqadaeaxeeaItbHsrArnaHghzmHmdHpnHeaIdnmaibHncHsabccbfbb",
    "aHjefbNmhbbZ5qa3bpqpRobYDaNcaKveH0gcbbfdHiceaLfbXDdIbePDbIpdIgkHrdJAcHvoHjacbkdHnkhaHDcH",
    "enqbHmamcHqnidbbIClgacaKDlvdHxbbgcbccjakbcgdeIdibacabdbebaobIsrxaIrtNlgciBbIsqJkmJfoOaoN",
    "vfbbcdbabbKngcgdaCjHigbdiajkHopSvhbhIsvbnJAfdabbbgbaIcebbbeQBdjbbaHqgdexaLNfagoRMirIUaeH",
    "BgHGyabHwhdIralbZLlbKZbHncwWEedfihcgEdKucH9BHweHriaoaweboHQqgbqcgbbbeJeaLagRxaHDdVCdNEb3",
    "agJngI1qe4JHaIFKaNp"]⟩,
  ⟨["ex", "extendnumlet"],
   ["IFaN+papbtaH3UEbycNpa"]⟩,
  ⟨["fo", "format"],
   ["LnaHRoaKVraH*FbAeHrebjH30paNzcTHupHIJadLMph4R0ga"]⟩,
  ⟨["hl", "hebrewletter"],
   ["HUqAedH9Pkabjbmbebabbbbbj"]⟩,
  ⟨["ka", "katakana"],
   ["SHreJfbdIAbdNqpMqHobIxHZGoHxHSIsdbgbbbaOFcHsaod"]⟩,
  ⟨["lf"],
   ["ka"]⟩,
  ⟨["ml", "midletter"],
   ["HAaJCa2paUxaKuaMXsaH3VlaIbaMea"]⟩,
  ⟨["mn", "midnum"],
   ["Hmaoa6caWkaKcbIEaSlaMIlaH3UladaHBadaLxaoa"]⟩,
  ⟨["mb", "midnumlet"],
   ["HoaN*jbkaH3XnaLuaga"]⟩,
  ⟨["nl", "newline"],
   ["lbJyaN9cb"]⟩,
  ⟨["nu", "numeric"],
   ["HqjHUgfIAjbaJrasjMgjMgbIqaKdjJwjJwjJwjJwjJwjJwjJwjJwjJwjJajJwjIgjOwjIgjH6gjHgjPmjKajLgjg",
    "jLwjIwjKgjgjHIUgj1gjHgjMgjwjIwjSwj04wjHSgjIKgjgj4CjInapaHcjHCjKqjOwjQwjJwjRwjJgjgtImjTgj",
    "Jgj0wjIwjNwjIgjTgjWUwjIPgjIwjKgjWwj37wjI2uHrIQajTgjVwjNxj6vjK0wj"]⟩,
  ⟨["ri", "regionalindicator"],
   ["J8Vgz"]⟩,
  ⟨["sq", "singlequote"],
   ["Hha"]⟩,
  ⟨["wsegspace"],
   ["HaaLYFaIRFgbcIuaJ9aa"]⟩,
  ⟨["zwj"],
   ["OGna"]⟩]

def sentenceBreaks : List Packed := [
  ⟨["at", "aterm"],
   ["HoaN*vaH3XnaLBa"]⟩,
  ⟨["cl", "close"],
   ["HcaecHrabaDabaHnapaJZEdH6DbIRBhzbkbHwbobZzdDbHHqfhnIpbFjStvHFdHabHGcnobcjyashTljchbcHZOE",
    "bMxbCpcbqfLjbHrabaDababbbbH94sc"]⟩,
  ⟨["cr"],
   ["na"]⟩,
  ⟨["ex", "extend"],
   ["4aJpOtgOhHmbabbbbbaIikHquqaJfgcfcbbdHdaEAIBkHAijaydbibcbeHlcHBiHkxbHaHwcbrbgkbDcHyabgcbc",
    "cjakbAaccHyabeebccdaEbdalcHyabhbcbcubwfbcHyabgcbcchckbEaHBedcbdjaHieHxabgbcbdhblbDcHyabg",
    "bcbdhblbpamdHxbbgbcbdjakbDcIgaefbabhsbHDacgmhJcacilgIjbBababaebHrtbbfkbHdjaJetxdecbccgdd",
    "nlbakd1Fc9sdCcDbEbIaFjaHncbaJvbHcaJwlelMBeHzjbCcaHqEHreHpqHgimcEmHynHqtKycbueagaccMgHFWm",
    "bMcHaI*EcKnaJaFXkfJjb9UudbjHabIqbOqadaeaxeeaItbHsrArnaHghzmHmdHpnHeaIdnmaibHncHsabccbfbb",
    "aHjefbNmhbbZ5qa3bpqpRobYDaNcaKveH0gcbbfdHiceaLfbXDdIbePDbIpdIgkHrdJAcHvoHjacbkdHnkhaHDcH",
    "enqbHmamcHqnidbbIClgacaKDlvdHxbbgcbccjakbcgdeIdibacabdbebaobIsrxaIrtNlgciBbIsqJkmJfoOaoN",
    "vfbbcdbabbKngcgdaCjHigbdiajkHopSvhbhIsvbnJAfdabbbgbaIcebbbeQBdjbbaHqgdexaLNfagoRMirIUaeH",
    "BgHGyabHwhdIralbZLlbKZbHncwWEedfihcgEdKucH9BHweHriaoaweboHQqgbqcgbbbeJeaLagRxaHDdVCdNEb3",
    "agJng4L2vIFKaNp"]⟩,
  ⟨["fo", "format"],
   ["LnaHRoaNsaKNEaH*CacbAeHrebjH30paNzcTHupHIJadLMph4R0ga"]⟩,
  ⟨["lf"],
   ["ka"]⟩,
  ⟨["lo", "lower"],
   ["JbzHpakaeaHexbhbabababababababababababababababababababababababababababbbabababababababbb",
    "ababababababababababababababababababababababacababccabacadbeacadccacababacabbbacadabacbc",
    "cgacacababababababababbbababababababababbcabadababababababababababababababababababababab",
    "ababababababababgcacbbaeababababIecHchbEeKmabadacdsaBHcbbdcbabababababababababababebacac",
    "bHtHpbababababababababababababababababajabababababababababababababababababababababababab",
    "ababacababababababbbabababababababababababababababababababababababababababababababababab",
    "abababababababababababababaHqHiI7ta3BfIKcibaJvLFIbababababababababababababababababababab",
    "abababababababababababababababababababababababababababababababababababababababababababab",
    "abababababababababababibabababababababababababababababababababababababababababababababab",
    "ababababababababababababababababiifkhihifkhihinchihihiebbgadcbbidcbihkcbbJzanaqmJnadbdaB",
    "aeaeacbideaHbpea6lzH6gHpbadbbababaeabbbhdabababababababababababababababababababababababa",
    "babababababababababababababababababababababababababbhabaeamHfbafa+Otabababababababababab",
    "ababababababababababababatabababababababababababababcKfababababababcbabababababababababa",
    "bababababababababababababababababababababjbabacababababaeabacabcbabababababababababafafa",
    "bababababababaeabacadabababababawcbabc5vHkbngIpZ6agmeHHjzHMnHhKiHdKBkbobgbbUdaccbHjbiHOf",
    "HsJDvI5AF1SaF5SAzAgbrAzAdbabgbkAzAzAzAzAzAzAzAzABCybfAybfAybfAybfAybfbaH5ujbtgfOfHDILuHb"]⟩,
  ⟨["nu", "numeric"],
   ["HqjHUgfIAjbbJqasjMgjMgbIqaKdjJwjJwjJwjJwjJwjJwjJwjJwjJwjJajJwjIgjOwjIgjH6gjHgjPmjKajLgjg",
    "jLwjIwjKgjgjHIUgj1gjHgjMgjwjIwjSwj04wjHSgjIKgjgj4CjInapaHcjHCjKqjOwjQwjJwjRwjJgjgtImjTgj",
    "Jgj0wjIwjNwjIgjTgjWUwjIPgjIwjKgjWwj37wjI2uHrIQajTgjVwjNxj6vjK0wj"]⟩,
  ⟨["le", "oletter"],
   ["TBaedMqbHdgglAabaKfaVeaJwAeeHmHkHdbbJcbapbhbkccaqabDDIylayHajbeafveajadaxyhkfxbfrHjHAHvd",
    "asahjppehcbcvbgbadddaqanbbcobkaifebcvbgbbbbbbFdbatcqibcbvbgbbbedasapbxalhcbcvbgbbbedaEbb",
    "cparabfdcbddbbabbdbdcdlwaHuhbcbwbpdaAccacbEaehbcbwbjbedaFbbbpbribcbHicaqafcicyffrdxbibac",
    "gHAHpbbmgHAbbabebxbabjbbjacebavdHaaHFhbHdBeJtHkuaqfeddadbhcemmaIbHkcQlbdcgbabdcHibdcHabd",
    "cgbabdcobHybdcIcHfpJrZlcqbzfIkdkhrnsorombcpHtHdaeaIdIyhecHbbafIfkEHrDcelHlezHwwjHuIsaIDH",
    "orhHwDnbkHlAHdHjckHdsHkccHjdbfbbdaHHAdIhccdI9hHxhaqwjgbgbgbgbgbgbgbgIqaUvcziheceeIvgcbIz",
    "bdfHkbIDrFHqpWaMTFIa10mIdHncOmdpkbIcaqaHaIpHhiJiagaJhadgbcbdbwDHtoHrHEfdabblBkwzChHoCaqe",
    "bjkebHixcbhuwdadHrbadbcecabaycckhcmfcfcfjgbgKrHcDQ9dmweHqOOeRncJjIdabjbmbebabbbbbJlHbRks",
    "HFcHvHilJuebKgJjHxcEdfcfcfccHdlbzbsbbbocnHcJAIfHuOlCdHqHpFnDfHfkDcHdehbeJAInJcHhiHtICHtm",
    "PwjvkhzbJDfcabHlbbdacwkwjEIbsbbkvkzIgHxgbIaapdbcbCHkCdCHdhbBBHvkvksnrJoIiLxHdHgfFaOqHjgb",
    "qcHBCkaivHkrHouBwmHuHzbcanHmHayAHdDacaiHcdamHpodvabaHdrbytbHFgbabdbobjhHoHghcbcvbgbbbeda",
    "sameEjbacabHfbazabaHmHusducEHpubbaLyHoHjdHeHpuaHBHknaIhAHfgLzHlMthcachbbbxpabaIEhcHgqaba",
    "CakHhhavalHntasIiMhHaFibHeraHrDJqgbbbHfvazfbbbFoaQhspabmbHbJCaIp8zJgJorMdIYmJapHHprfzJ8A",
    "fYgM1zDH3cXyhErIorDsHpqdFufsTqHmStIkfaIcmIabbaCL*xiHMvHjjO3hdbgbbbPcpaDccaodiSlIOeJkfmdi",
    "hjOZqaVvHmkgqaQbDsHlVeBNeDcaVpgbdbbbobMeKgaHLudbAbbbacabjbdbabagaeabababcbbbacababababab",
    "bbacdbgbdbdbabjbqfcbebqKQeHP2FHaKHzgMDcL0boNPqpZnITcWDHVcK6kfKIF"]⟩,
  ⟨["sc", "scontinue"],
   ["Hmbmb6caUEaLobVkaKGjafaIGkbJ*maHZWobbbCbDbcbcakaLibmbIia"]⟩,
  ⟨["se", "sep"],
   ["KfaN9cb"]⟩,
  ⟨["sp"],
   ["jabbtaJFaLUFaIRFkHeaHpaJ9aa"]⟩,
  ⟨["st", "sterm"],
   ["HbaDaHQjaKtcLuaHlcNwaHDabadbPfbH3eb4waeb4faMgbKDbHnafaPAbRcdLcbkbcbDcLBbIbb9CbjcJLpcPsan",
    "awbTna9NCaOobNdadaREbIwbIFaKybKtcKqbNza0XgacbHFbLjaDaIbaI3ubHNDeHmdLDbJvdJFcKbbgaqbIybbb",
    "JmaPkbJvbRvbfoJjbNzcWfabaNBbIxbTeb1ubIkbY5jbKfaIbblaXjbPiaZWgaNVia"]⟩,
  ⟨["up", "upper"],
   ["IbzJfwbgHbabababababababababababababababababababababababababababacabababababababacababab",
    "ababababababababababababababababababababbbabadbbabbbccdbbbcdbbbbababbbacabbbcbabbdahbbbb",
    "bbabababababababacababababababababacbbabcbababababababababababababababababababababababab",
    "abababababahbbbcabdbabababaPbabadaiagabcbabbbqbiHdaccdabababababababababababafacabbcHsHq",
    "ababababababababababababababababajababababababababababababababababababababababababababab",
    "bbabababababacababababababababababababababababababababababababababababababababababababab",
    "ababababababababababacHfI6jHfbafa2sIvIKtaRwababababababababababababababababababababababa",
    "babababababababababababababababababababababababababababababababababababababababababababa",
    "babababababababajabababababababababababababababababababababababababababababababababababa",
    "bababababababababababababajhifkhihiflabababaihyhihihieleldmeleOfaeadccccadegabababdcdkbf",
    "aApta5szH5qHpHqabccabababdbacaicbabababababababababababababababababababababababababababa",
    "bababababababababababababababababababababaiabaea+Qnababababababababababababababababababa",
    "babababatabababababababababababababaKhababababababadabababababababababababababababababab",
    "ababababababababababababakababbbabababaeabacabadababababababababababebebabababababababdb",
    "abbdafabababaya15lzHMfHhKiHdKCkbobgbbH3kHsKDvI5AF1SaF5TazAzAzAabbcacbcdbhAzAbbdchbgBbbdb",
    "ebadgBzAzAzAzAzAzEyHbyHbyHbyHbyHbaKPvHbIGozgzgz"]⟩]

end PublishGate.Pattern.Unicode
