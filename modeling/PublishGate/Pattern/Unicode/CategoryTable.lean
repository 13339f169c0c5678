import PublishGate.Pattern.Unicode.Packed

/-! # General categories of Unicode 16 -/

namespace PublishGate.Pattern.Unicode

/-- The leaf categories with their short and long names. Surrogates are no characters, and the
unassigned code points are those of no category. -/
def categories : List Packed := [
  ⟨["lu", "uppercaseletter"],
   ["IbzJfwbgHbabababababababababababababababababababababababababababacabababababababacababab",
    "ababababababababababababababababababababbbabadbbabbbccdbbbcdbbbbababbbacabbbcbabbdahacac",
    "acabababababababacababababababababacacabcbababababababababababababababababababababababab",
    "abababababahbbbcabdbabababaPbabadaiagabcbabbbqbiHdaccdabababababababababababafacabbcHsHq",
    "ababababababababababababababababajababababababababababababababababababababababababababab",
    "bbabababababacababababababababababababababababababababababababababababababababababababab",
    "ababababababababababacHfI6jHfbafa2sIvIKtagHkccQaabababababababababababababababababababab",
    "abababababababababababababababababababababababababababababababababababababababababababab",
    "ababababababababababajababababababababababababababababababababababababababababababababab",
    "abababababababababababababababajhifkhihiflabababaihIidmdmdmeldOgaeadccccadegabababdcdkbf",
    "aHDaIZCHpHqabccabababdbacaicbabababababababababababababababababababababababababababababa",
    "bababababababababababababababababababaiabaea+Qnababababababababababababababababababababa",
    "babatabababababababababababababaKhababababababadabababababababababababababababababababab",
    "ababababababababababakababbbabababaeabacabadababababababababababebebabababababababdbabbd",
    "afabababaya15lzHMfHhKiHdKCkbobgbbH3kHsKDvI5AF1SaF5TazAzAzAabbcacbcdbhAzAbbdchbgBbbdbebad",
    "gBzAzAzAzAzAzEyHbyHbyHbyHbyHbaKPvHb"]⟩,
  ⟨["ll", "lowercaseletter"],
   ["JbzHAaHjxbhbabababababababababababababababababababababababababababbbabababababababbbabab",
    "ababababababababababababababababababababacababccabacadbeacadccacababacabbbacadabacbccgac",
    "acababababababababbbababababababababbcabadababababababababababababababababababababababab",
    "ababababababgcacbbaeababababIeczMbabadadcsaBHcbbdcbabababababababababababebacacbHtHpbaba",
    "bababababababababababababababajababababababababababababababababababababababababababacaba",
    "bababababbbababababababababababababababababababababababababababababababababababababababa",
    "bababababababababaHqHiI6hHkcc3yfIKcibaJvHlHFmbHbJgababababababababababababababababababab",
    "abababababababababababababababababababababababababababababababababababababababababababab",
    "abababababababababababibabababababababababababababababababababababababababababababababab",
    "ababababababababababababababababiifkhihifkhihinchihihiebbgadcbbidcbihkcbbOsadbdaBaeaeacb",
    "ideaHvaI1lHpbadbbababaeabbbffabababababababababababababababababababababababababababababa",
    "babababababababababababababababababababbhabaeamHfbafa+Otabababababababababababababababab",
    "ababababababatabababababababababababababaKhababababababcbabababababababababababababababa",
    "babababababababababababababababhbabacababababaeabacabcbabababababababababafafabababababa",
    "babaeabacadabababababaAada5vHkfihIpZ6agmeHHjzHMnHhKiHdKBkbobgbbH4dHsJDvI5AF1SaF5SAzAgbrA",
    "zAdbabgbkAzAzAzAzAzAzAzAzABCybfAybfAybfAybfAybfbaH5ujbtgfIVxHb"]⟩,
  ⟨["lt", "titlecaseletter"],
   ["UfacacaHgaNSvhihihmapaHpa"]⟩,
  ⟨["lm", "modifierletter"],
   ["1qreloehabaKfafaUEaNgaLebOnbeaFajadaLaaLhaHMuaJFaXvaH2AaJlaZdaUqfLoHEnaHcHe1ranaqmI+FbNr",
    "aLFaUvaHlefaJbbIDc74waHNcfOoaJsaCbJziIqaxaJjcdbUvawaKjaJmavbJhdja1GgaHnbH*afbHjbiHStaHaa",
    "3UqdVCcHibXgmIabbaWGmdbgbbSHrHDMjg9naHIFa"]⟩,
  ⟨["lo", "otherletter"],
   ["LkapaOaaedMqb5AAedHnFbjHdbbJcbaybkccaqabDDIylayHavvHkyhkfxbfrHiHBHvdasahjqoehcbcvbgbaddd",
    "aqanbbcobkaifebcvbgbbbbbbFdbatcqibcbvbgbbbedasapbxalhcbcvbgbbbedaEbbcparabfdcbddbbabbdbd",
    "cdlwaHuhbcbwbpdaAccacbEaehbcbwbjbedaFbbbpbribcbHicaqafcicyffrdxbibacgHAHpbbmfHBbbabebxba",
    "bjbbjacexdHaaHFhbHdBeJtHkuaqfeddadbhcemmaJrQibdcgbabdcHibdcHabdcgbabdcobHybdcIcHfpJrZlcq",
    "bzfIkghhrnsorombcpHtHiaIdHcbHuhecHbbafIfkEHrDcelHlezHwwjHuLqHorhHwDnbkHlAHdHjckDJrdbfbbd",
    "aHHAdI*xHxywjgbgbgbgbgbgbgbgXhaHvaeIviabIzeafHkbIDrFHqpWaMTFIa0WubHJwIdHhiOlepkbIcaHrIfL",
    "jaJhadgbcbdbwDHtoHrHEfdabblBkwzChHoHnecikebHixcbhupbfdadHrbadbcecabaybdkhaofcfcfjgbgKrHc",
    "DQ9dmweHqOOeRncJjIdabjbmbebabbbbbJlHbRksHFcHvHilJuebKgJjjbHmcEdfcfcfccHdlbzbsbbbocnHcJAS",
    "fCdHqHpFntbhgHfkDcHdehKaInJcHhiHtICHtmPwjvkhKyfcabHlbbdacwkwjEIbsbbkvkzIgHxgbIaapdbcbCHk",
    "CdCHdhbBBHvkvksnrJoIiLxHdHgdbaPqHjgbqcHBCkaivHkrHouBwmHuHzbcanHmHayAHdDacaiHcdamHpodvaba",
    "HdrbytbHFgbabdbobjhHoHghcbcvbgbbbedasameEjbacabHfbazabaHmHusducEHpubbaLyHoHjdHeHpuaHBHkn",
    "aIhAHfgLzHlMthcachbbbxpabaIEhcHgqabaCakHhhavalHntasIiMhHaFibHeraHrDJqgbbbHfvazfbbbFoaQhs",
    "pabmbHbJCaIp8zNgMdIYmJapHHprfzJ8AfYgM1zDH3cXyhErIorDsHpHtufsTtHhSvIkfaLpL*xiHMvHjjO3xPcp",
    "aDccaodiSlIOeJkfmdihjOZqaVvHmHbaQbDsHlVeANfDcaVpgbdbbbobMeHPBdbAbbbacabjbdbabagaeabababc",
    "bbbacabababababbbacdbgbdbdbabjbqfcbebqKQeHP2FHaKHzgMDcL0boNPqpZnITcWDHVcK6kfKIF"]⟩,
  ⟨["mn", "nonspacingmark"],
   ["4aJpOteOjHmbabbbbbaIikHquqaJfgcfcbbdHdaEAIBkHAijaydbibcbeHlcHBiHkxbFHxabaeheadgkbDaHAaed",
    "iaubAacbHzaebebccdaEbdalbHzaeebbeaubwfbaHAacabdiahblbEaHDamaHsadaHxabcfcbdhblbDaHAacagaf",
    "bubCbHzbediaubDaIiahcbaIAacgmhJcacilgIjbBababaHxnbebbfkbHdjaJgdbfbbcbzbecqdnacbgapa1Fc9s",
    "cDbEbEbIabbgiackjaHncbaJvbHcaJwcebjagcMBbcaHAabgbabachgjcaHqnbpHrdHqabebafaHiimbHadcbbcH",
    "yabbdabcHAhcbKycbmbgeagadbMgHF2qmeadlI*EcKnaJaFXkdJlb9UuaejHabIqbOqadaeazbfaKxbArnaHghzk",
    "HocHqacdcbHhaIdfcbcbmaiaHpaHtabccbfbbaHkbiaNoacaeaZ5qa3bpqp+naNcaKveH0gcbbfdHiceaLfbXDdI",
    "bePDbIpdIgkHrdJBaHwoHjacbkcHrdcbhaHDcHeebhHEambHuikdcaIFccabbgacaKDadhvbHzbdaHfgdeIgfnab",
    "abaobIvhccbaxaIufbaebbbNodgbbbBbIvhcabbJkabacfbaJfabacdbeOdibbOabbaeaKqdcbeaHajHifcdiajf",
    "ccHombbSwgbfbaIsvcgbbbbJAfdabbbgbaIibdabaQBblbHuefabaxaLNfagoRMildcIUaeHBgHGyaHFdIraZLyb",
    "KZbHncwXacrhcgEdKucH9BHweHriaoaweboHQqgbqcgbbbeJeaLagRxaHDdVCdNEb3agJng4L9vNp"]⟩,
  ⟨["mc", "spacingmark"],
   ["IOdaHxaccidbbHsbHAcgbcbkaHlaHAcIcaHAciabbHvbHAabagbcbkaJgbbbdcbckaHjcHDdHDbHAabecbbbjbCa",
    "obHAcfcbckaHkbIlcghsbQkbHFaLlbeagacbzbkccgvbcfcakcHZyaEaKbahhbbQAdccebbfNabHAabajabbifKr",
    "aHqafabebbHDaEaebcaHCaccbadbHqhibLlavaK5wb9*tbcaIybHspKobHpaHqbebccJobcbyaHnabaJnacbfaNn",
    "bbbbbba5GtabaJFaHncebJtaybHBaHqcjbnaIDcdbbaLkcFbHAbbdcbccjakbIuchacabdbbbaJfcibdaJkcgabd",
    "caNncgdcaJrcibbaJnabbgaJhabbeaOfcjaNxfbbeacabaKocideaIuaDbHEaSxaoaJkahacaMveebbaQEbmaHqb",
    "ibbaWVicJXeHwJib4Rtbgf"]⟩,
  ⟨["me", "enclosingmark"],
   ["HKibLXuaHWEdbcHHSlc"]⟩,
  ⟨["nd", "decimalnumber", "digit"],
   ["HqjHXgjKgjMgjSCjJwjJwjJwjJwjJwjJwjJwjJwjJwjJajJwjIgjOwjIgjH6gjHgjPmjKajLgjgjLwjIwjKgjgjH",
    "IUgj1gjHgjMgjwjIwjSwj04wjHSgjIKgjgj4CjKajHCjKqjOwjQwjJwjRwjJgjgtImjTgjJgj0wjIwjNwjIgjTgj",
    "WUwjIPgjIwjKgjWwj37wjI2uHrIQajTgjVwjNxj6vjK0wj"]⟩,
  ⟨["nl", "letternumber"],
   ["L3ocIZpHccdJZEazioc91lj2YqHuUmaiaKgeOHkJo"]⟩,
  ⟨["no", "othernumber"],
   ["LsbfaccIPvfRyfJycKfgMzgriTrjHHvtHJtjVaaH0vadfgjMgpHja2wHBIovZwDHRjaHKudKkjEhboHajHho9Rqf",
    "2MrHmIbdrbQvAHedHPuhzgHhiIlewfLabcpcHnIaiHubEcIleJihyhHjgQkfRaEKEjHkdJqgKgtRBtHQfbToi7hs",
    "6tuY8gg4Ew5HjtmtJmyLQoi9bHAbcbdImHmbo+cm"]⟩,
  ⟨["pc", "connectorpunctuation"],
   ["IFaN+FbtaH3UEbycNpa"]⟩,
  ⟨["pd", "dashpunctuation"],
   ["HnaHQCaHtaJYbaHGfaIGjfJWbacaFbeaCaTEataJpaHZSqbHfakaLjaJZaaPEa"]⟩,
  ⟨["ps", "openpunctuation"],
   ["HiaHsaFaJ1EabaH6EaIREadaHgaHxapaZAabaEaHHEababababababaIqaHaababababaSuababababababababa",
    "babaIaabaHbaHHfabababazasabababaTmababababadabababacaHZPbaMxaDabababababababadarababaLka",
    "HsaFadaca"]⟩,
  ⟨["pe", "closepunctuation"],
   ["HjaHtaFaJ1DabaH6EaITjaHxapaZAabaEaHHEababababababaIqaHaababababaSuababababababababababaI",
    "aabaHbaHHfabababaHmabababaTmababababadabababacbHZOEaMzaDabababababababadarababaLkaHtaFac",
    "aca"]⟩,
  ⟨["pi", "initialpunctuation"],
   ["LlaN7macbcazaJUiabaeacapada"]⟩,
  ⟨["pf", "finalpunctuation"],
   ["LBaN6DadaCaJUiabaeacapada"]⟩,
  ⟨["po", "otherpunctuation"],
   ["HbcbccababbkbdbBaIeafaobha1EaiaUsfHjaHwacacaHmbubbbnabcIkdJgaHlnNjcHwoFaOfbkaKmaJyaJzaSg",
    "amaRpaIAakbLiobaJqaIkeebJpfLlaZei4faJCcIhbKDcbcHffbdPzbMybKagbfLabkgCcJCdHBeHEbIahla6cbi",
    "hiicdccdkbabjJKAdbbJqaKpbeccacibbbacbkebjcdbabmccTmcHzaLDa9GcbOncJdakaJtfRCdIwbHicbaHrbH",
    "paJbmqbJCdJEbqbNza0XegcawaubcddcbdhcgabbKvcbccababbkbdbBaHeacbSAc0CaHqaSEa3haMhaFaOqiHga",
    "JqgIcgIzd9yeHmdLDgJnbbdJEdHqbIpdeanabcIyfJlaPkbbbJsekbbaJiaNAwJjcCmImaKccNCaOicKBaIChItc",
    "beIDjMxaIFeHkb0fbIkmLpaHJqeI7CbUZBbKfaIbeiaXicPhdQhaZLCaNVheI7ta6Eb"]⟩,
  ⟨["sm", "mathsymbol"],
   ["HlaqcHDabaHnaeaHfaFa3EaWpcMXBanaHhcncKlaHhegaIeefbeacacahaFbcabaFOlHabIAaEyHifUvajaHwhJp",
    "aQqecEkpOaKcwHEeFcObHqucfHZ+Ca5yabcLeaqcHDabaKdagdJTbbHYPrazaFazaFazaFazaFazaL5mb"]⟩,
  ⟨["sc", "currencysymbol"],
   ["HeaJDdHNjaJBaVsbVsbhaNvaOhaYfaISBaIMeHaHH7xa1UdaJmaKAaMBbdbN*wdHW4EaITqa"]⟩,
  ⟨["sk", "modifiersymbol"],
   ["IEabaIhagaeadaWjdmnfgbabqJvaobHOcaL5uabclcncncnbKKCb9ZdwjbJhb+qaob0Igq7BabaLcaH9Gxe"]⟩,
  ⟨["so", "othersymbol"],
   ["Lgacaeaba+raOkbJFbMoakatbNxaWdaRvaKcfbaKeaMpaHjaShcpabccfuababaKfhbfbbfdMfb3qj2ta2saKDHb",
    "RbjjiHSdbbdbbkabbgfbababaealboabbbaHAbjecdbbbbbgbEcbbabEOmhetcgcIqbDzHhgIhwkIrInwLwbibHv",
    "iJobNxHmHlIaNFWaHpvbgHgcFbJiNffRfbHozbIymMvApeanbmavbgbQqbejHaHfjaqElDiapFkHgpPFMUaHF10q",
    "Hw7bdkbbaXDc02gpJFaHncVeadaebnbPziHzqccbmdaHpHmHZAbYpaJJwaIKvheqY6kdfa0QwaJ7dNpqTtKCJtHC",
    "NvkHgcHBfcwbhDeHCvIbdaLAIwHLjVFHxdHshbnbbH2iaI6CaKba2rHleJdmocobobHexLaHyCnHleihbofKANAf",
    "2xeqdmdJweIEgleapleHxijgHhiDclebHEQtmncmdjfHxhockgihKsbIB"]⟩,
  ⟨["zs", "spaceseparator"],
   ["HaaJFaLUFaIRFkHeaHpaJ9aa"]⟩,
  ⟨["zl", "lineseparator"],
   ["OHia"]⟩,
  ⟨["zp", "paragraphseparator"],
   ["OHja"]⟩,
  ⟨["cc", "control", "cntrl"],
   ["aFIFHa"]⟩,
  ⟨["cf", "format"],
   ["LnaHQsfwaMaaHraSabIqaJ5laH*CeAeHrebjH30paNzcKMbapaO7cpHIJadLMph4R0gaEIF"]⟩,
  ⟨["co", "privateuse"],
   ["H4GaMNF8H4aH**DcH**D"]⟩]

end PublishGate.Pattern.Unicode
