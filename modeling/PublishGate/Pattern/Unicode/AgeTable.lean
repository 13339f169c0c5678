import PublishGate.Pattern.Unicode.Packed

/-! # Ages of the characters of Unicode 16 -/

namespace PublishGate.Pattern.Unicode

/-- The characters that each version added, oldest version first. -/
def ages : List Packed := [
  ⟨["1.1", "v11"],
   ["aVveDHyIyhHobjwIfAbsbeadafgbabtbHlbgdababababrnlbIbblbHijHucbcbdBchcbHxHfcgbHgbaHgjbimAf",
    "exaoadabzfsnncIhcebobDcjWhcbHucrcedyqcbhcbcvbgbaddcabgcbccjaebbecuhacfebcvbgbbbbbbcabeeb",
    "ccldbahomcbgbabcbvbgbbbecjbcbccapafjrcbhcbcvbgbbcdchdbccibebbcekrbbfdcbddbbabbdbdcdhbcee",
    "dcbdjaplocbhbcbwbjbeegbcbdhbjbejsbbhbcbwbjbeegbcbdhbhabbejsbbhbcbwbpefccbdjaibejKrHzeCHf",
    "bbacbbacagdbgbcbabacbbmbccebabfcjcbUcHfkHgeaeIzfIdfIrJGgKAfIzgvcfcHfcfchbabababEcHubobnc",
    "fbsccbibHobwHdgdArkHfrEHyAHpnIAvNroabJyKfHeBkvKkvKvkIpqtgIvKrdbdcBbHcbabddabgcgoEdxbnIIb",
    "HxhabItefcIDgHheIDbpJaCdHdCBdHrpleHobJweJccEMWb0TfWIAMXnMsgmegybebabbbbbJlHbRmqHFcHvHilH",
    "edmuejbsbdecbabKgcabIDcIDdfcfcfccdgbgoc"]⟩,
  ⟨["2.0", "v20"],
   ["HSrqbmuaIPBIhbHahAefbabudgbaJ3baWpaHI6uQ9dIQIAbH**EbH**EbH**EbH**EbH**EbH**EbH**EbH**EbH",
    "**EbH**EbH**EbH**EbH**EKGGb"]⟩,
  ⟨["2.1", "v21"],
   ["OLmaH36pa"]⟩,
  ⟨["3.0", "v30"],
   ["VwdEhcrJveHrakeIxitaJuadabababaEamaIcamaHkbcdICbKCaMicJcbfapaHkebnbDdAHvHqHUrbbrdxbibacg",
    "daefbabhscRvaHlaxchabcbocaHqHbbebbbgddgzTggbHEbabdcgbabdcHgbabdcEbabdcgbabdcgbgbwbEbabdc",
    "gbHgbsgBHdIumZvjCdIqKpICdjwobjgIxiHjH8fayfIFcHsbIvbIiaJhiOnaJzabDKkbUjhHbaIwbSoNFHSazbIy",
    "mMvAlHCcdaRbxYiMTv0YkHKmdrcpblbcba1YwaHMBc"]⟩,
  ⟨["3.1", "v31"],
   ["*ubH+UAFHOqEbdmALvHfcHfHY9sNvkHgdLtXcIubIgbbcacbcdblbabdbbbIabdchbgbBbdbebadgbQrePbeHrQG",
    "aHP2w0PjWD2HVdaEIF"]⟩,
  ⟨["3.2", "v32"],
   ["XaaPoatmJibCaKtbHzbcbcbHrpQEbQbaIQfbHWhmbglwjtmmbcbbIMtageeahenaHEbHsgIsoLilNsnJCaEHtOCt",
    "KxjIyhwbIAlcjMEnIABepOaVFHPBcIxbibIEaNqpIroIro8Vcbqamada1RkHA8radpHvbHmaNlb"]⟩,
  ⟨["4.0", "v40"],
   ["XbascJxbHFqIqhfcKxeWedjiIacKvbpaHncDcTuaLyaIdabaKiaIucnaIdaHBaKbhMbbI4FasjOgCdleleadHjce",
    "JlF4aJl3hbNga0tbPoaOubJuhobHIEnH4pbHraHlbIodLhdJdbFaMUaHFHR*DaIjbTxlbzbsbbbocnHcJAfceHmd",
    "iYaDbaKgbHgIpcj6wfcabHlbbdacaHY2aIwRka4RHENp"]⟩,
  ⟨["4.1", "v41"],
   ["XxkOweKFdNwbLkaHccIdasaHAfNrDWpaIqaVhaHpa*jbPhbbaOkaHFaHFaHhaFaFaFapaHhaxbFzHVgHjgzgjebH",
    "aBcb6mIx0rbbgHreDdHvaIqapa0ekXCaJfbskfpOog6hfNmHobHoHbJkoHmkHvjaqwjgbgbgbgbgbgbgbgHbxeb9",
    "cpLoa7PhvH6ewNjHl0YeJj5wj5gIkWvHdenHXkdbbfhbcbAeceiiiHX9hIfHIEb"]⟩,
  ⟨["5.0", "v50"],
   ["YcnPlcQraHkfqdLgaWfHASabbb7cbnbJWnIleHmYhgHtb3mdIDbHvaYxl2kaOud6jgfdPCmhd+0FdfbOEHx4Kizf",
    "aL3a7oKrJcndHR3mrHIyb"]⟩,
  ⟨["5.1", "v51"],
   ["7qdcbIxaLxaKmpNceleHaePorVrbMEaHdaMoaDbJmaJmaAbibuhLDagaDbmfdgVlbJbadcInafacahcefAHFebIG",
    "ka2vHkdlIgHxdodHsQlBLvdIAfReaKlaIEaHvdHOuavjddOiaFd5leeHideOycbcefRcFydcs3CaLct7UyhHPCPl",
    "uFcriBKdecJkJoeKaIejlHgItlaLaHwjncjcd0+ec7jlHuHnKcCdHqHYpzfaHX*jaN2wHleJd"]⟩,
  ⟨["5.2", "v52"],
   ["HPeb2AHncoMbaInagaHdbKaaHUzdMbdLCeIeeIsfWaaZwiXqIfLubHoaIfHEbCckgjgnXcHcOka1ycKxcHwaYEa1",
    "vbDcejbsbaexIxa*DeOwanbJlgPFaHGsl7RuhHOeHpTaIxPyjLgBJeCdInbkebKaBeIcyeNaHncjQ9wweHqOZpcJ",
    "UsvbiLAbQeFKaHvdCcAfhKaIiWxEWbIbN5EHHoHVMrkfEcalabacadadeiahazabbcakdcaJpapHboiHTLxKHu"]⟩,
  ⟨["6.0", "v60"],
   ["HPgbNyaHEaVaBcaMBbtagbBeVAfTraqataXDdIjb8cbIJbHtidVCa0yhCa5pk2AatabdDaebCaHdabaecjbHucya",
    "oaobHTaaoaHHyc9LfbPlbbbojIqa4gfcfcfjgbg0KdpLHEIneD18qXyXUhbWKEocncoboIqabkbabbbcbcfhbgbj",
    "gibacbbjebbjIlzbbHpivbLoHapfbIfdtmHebevqpHEbabLvbddHDsxKtebpbcbabababcbfcdbacdblekHqIfHA",
    "JtHV+mMD"]⟩,
  ⟨["6.1", "v61"],
   ["HSpaJua0BabkHxAVra*nbVhafaHpcI1lcmfOahHldI2uabaHPebHtafaHybMkj8SqaH1hhHdaNsbwaInb3gwZ5xb",
    "J6qHxgbH4qyhjgHubnHCIihjHLgHxij2HwIelHoqq*ZadbAbbbacabjbdbabagaeabababcbbbacabababababbb",
    "acdbgbdbdbabjbqfcbebqHubZyb+udLCaqadabababadagbeabbea"]⟩,
  ⟨["6.2", "v62"],
   ["OLAa"]⟩,
  ⟨["6.3", "v63"],
   ["HWCaMYjd"]⟩,
  ⟨["7.0", "v70"],
   ["7FaTihIDbJwa0BalfImaJyahaZFaHtaImaJFaNejIObhXebSroXzbNno2fc5wg4faHImckzcFcHbdlbhZkg+IvfN",
    "wllccbIfaViEJDdLqHpeb02bg6DbtaPFBHdaHqHkSfHhiHtlaKqPwjvkhNyHEiiUqFHaHgelKjrhdmgHMpaMqHgI",
    "wamagtlrbHkJsHAfjhcbhcbcvbgbbbecicbccjafgcgdeOlIhijLgHvcrHwIeljYgIsmaUaHyIJwHjMklfaXUlEb",
    "jebJaDcfkIfkjbgbufs0JqJkfmdihjchQ6CMecpH*iaHavvbWuljaIgawlHfafdflrgIhabaLwaebHFbegDrbHib",
    "IvIgbnHpIgjqmddKmIuHlleHxijgHhiD"]⟩,
  ⟨["8.0", "v80"],
   ["ILtbHoaWvaRaaOeaH0vacfJMaaMlbIZad8+DiH2iaNqaHcfQebZcdmIp0ZobI1qsbbfeLCbcpcHn0aHsnHshfHMj",
    "doeLagbabdbobkIwaIpaZztPczdoepJIzaNgMdN1CYgHI8xkHWx0lpeboMJDcIobIpeHehNFaIleNtbKlaXFiJhe",
    "HBaHVYFL0b"]⟩,
  ⟨["9.0", "v90"],
   ["ILwhwo8DaMoaecbgxcJ4hiRsaHVFdIYeb+RjaOwa2Mhb5bHdeHdJQcaUbIzbabaWcmHStibHmbnkCdFcvbn05jaF",
    "L*mt3s1OngbqcgbbbeIMvIkfjebIHBrKoa5EaHjaPmbHbcXcfbhiaclbleoHgm"]⟩,
  ⟨["10.0", "v100"],
   ["IJakSrbNCfWaaHAbJ9AaNEd2fa5FaH+saZse3ea71hu46ccL2qIhiHtcwbeYDgbbbHldabbbiij00haWHaOCIrSl",
    "V7efHJnbHcbWhltaihbbzasmHgfHywH1MjNPq"]⟩,
  ⟨["11.0", "v110"],
   ["HRaaHhaJgaWncMtaPkaJxaSnaJFaI*taHGxHkccJ3AcwyeoYle3aa71BeH9FaibQeb4Pubsa1xHhijUgHhiHjRta",
    "JwcVuaPca1BaNfHBZba2cfbbbHebbbfhjPwyZ6hIAMQseY3otJEgMNyIdHJAaHUjaMBdRucCecddabdyknjhbHey",
    "Jan"]⟩,
  ⟨["12.0", "v120"],
   ["JJxaWoacacabfeahahbcanaJXFaJ2oaHvaYpa+Rkfce8Fb5JywHJiaYya3hhcHnckKFbHPAHrnaLHqiU4mfeaHpi",
    "IAbMGofQQycrdR8yHmdncjebRqHzfaHYla9vHCHHoaHRiaHeaNflPbcHpaHrajaHjfdbkfdhccHqItCdecfcnf"]⟩,
  ⟨["12.1", "v121"],
   ["S3Fa"]⟩,
  ⟨["13.0", "v130"],
   ["ILEj0naToaJCaJPDbKMwa1yc7ieM*wj0XqmH+kdHkbHva5Bd1XqaJNdHjbccbNEBRBaKgb0kafbHKEgcachbbbDb",
    "bcljjHYwa0HtalbM4bVcHki5GecIDcHDaHPibHdbTtbIAaJfaebHkbgcDaLiaodpshgjcngHjKsbHwHfjHQ2Dg2P",
    "cK6k"]⟩,
  ⟨["14.0", "v140"],
   ["HWDaYsEbbghvask7jaHaaJFaIXpahajaNpa1rnJDaHqbZBa2faI7oaHpaVtk8SFcH+abobbabeyc0+naRDpJFaHo",
    "bH7qkbobgbbbkbobgbbUdfbHjbiH9vzNgfImaHVwaKgg7jpLMqJcUZDIobjXPgdbgbbPadNUDHncwjJtXfbJOvE7",
    "rEHPrgbdbbboJ2EcOqaSiaIsaLobHmdkdicrcghigHQ*hbKIvd"]⟩,
  ⟨["15.0", "v150"],
   ["JNtaUAaIGHoc5FcILEj*wqbHidBLMvajC*MCaHcaORktJIrfOfHDHbaHIaHjKVcaKxceeIza0BcpbHeclcbaobkb",
    "maobHVIaa3GwKIF"]⟩,
  ⟨["15.1", "v151"],
   ["R*CdVpaLUWaZn"]⟩,
  ⟨["16.0", "v160"],
   ["IKxaK1wbHpaOjbH8CcJTAb9Vfcmc3VdHtH6mHfdCibPscHxaHKdjbacabHfbjbacabdbjbbib3ntHMCHboj7aaLO",
    "fJ8ANOfHzJGgHzN8faV4aNzgTtL4CHkeaK1sjebUhafaHoahavacajaNbHe"]⟩]

end PublishGate.Pattern.Unicode
