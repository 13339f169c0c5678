import PublishGate.Pattern.Unicode.Packed

/-! # Binary properties of Unicode 16 -/

namespace PublishGate.Pattern.Unicode

def properties : List Packed := [
  ⟨["alpha", "alphabetic"],
   ["IbzgzHpakaeafwbEbUjeloehabaIwaDrbbcdbagabcbabtbIsbKkiLfbHfcagHiHhnbabbbbbaiAedDkfHxbgoJf",
    "bheheckccaqHpnJeyHajbeafxcstyhkfxbfiaiHjkldggIlbpbceonsbhcbcvbgbadddhcbcbbaiaebbembkaecb",
    "febcvbgbbbbbbeeebcbeahdbarflcbibcbvbgbbbedibcbbdapdvdecbhcbcvbgbbbedhcbcbjbebbenaqbbfdcb",
    "ddbbabbdbdcdleedcbcdagaHimbcbwbpdhbcbcibbccacdCdbhbcbwbjbedhbcbcibgbbdncmmbcbHichbcbcbaf",
    "dhewfbcbrdxbibacgifbabhsbnHzfggaHtbbabebxbabsbccebagaodHaaHFhbHdesepbHdIdHwbaceqHFkdcHfb",
    "afacHkbQmbdcgbabdcHibdcHabdcgbabdcobHybdcIcHfpqIvcfdZlcqbzfIkdkhtlumtmmbcbbmHtcsoaeaIdIy",
    "hHkfIfkEbleixDcelHlezHwBeHEctHsaxblcHrHtbobhHtHjcdkHlbkoHwwckHdckfHkccHjdbfbbdafLFtHblOv",
    "cfcHfcfchbabababEcHubgbadcbgddcfemfcbgJuanaqmJfaeacjbadegabababdbkcdfeearHi5nHtH4wNegddb",
    "mHfbafacHxhaqwjgbgbgbgbgbgbgbgbFHpaUvcziheceeIvgcbIzbdfHkbIDrFHqpWaMTFIa10mIdHncOmdpkbuH",
    "ofhdJqHhicJgcIccbbabhvtbHayHtmIdbaHmfdabckHafHcnCdHsblpaqpkebHwjnswdIebabayccpcdlfcfcfjg",
    "bgbHkbngJAvQ9dmweHqOOeRncJjHggmeflbmbebabbbbbJlHbRksHFcHvHilJuebKgHezgzlIydfcfcfccHdlbzb",
    "sbbbocnHcJAIfHuOlCdHqHpFnDfHkfDcHdehbeHkKDsHdeHdeHhiHtmkbobgbbbkbobgbbdHtmPwjvkhyfbHjbiI",
    "ffcabHlbbdacwkwjEIbsbbkvkzIgHxgbIadbbfhbcbCHkCdCHdhbBBHvkvksnrJoIiHxHsnHsnHhHcBdafwNAHjb",
    "bdbqcHxadCkaivHkrHouBwjIfHlekHyjanyxHsrdiHcdajHFbdjbkabaHdrbHbcagdHEgbabdbobjhHyxdbhcbcv",
    "bgbbbedhcbcbdagafgCjbacabHfbjbacabdbbdabaHmIbbcbducEIbcbbaLyHvcgzfHcHEbadaHBHvcaIhAcnvgL",
    "zHyJhHFFhcachbbbDbbcbcdIDhcHncfbabbBHscjrIhfasIiMhHaFibHmbgbaHrDcvbnIjgbbbHldabbbcbacbyf",
    "bbbHebbbdbaQhwjqbHidcJpaIp8zJgJorMdIYmJapHHprfzJ8AfYgM1zHoH2rXyhErIorDsHpqdFufsTqHmMtHFK",
    "aIkeHyhqIabbamboL*xiHMvHjjO3hdbgbbbPcpaDccaodiSlIOeJkfmdihjeaL7bIubIgbbcacbcdblbabgbIabd",
    "chbgbBbdbebadgbQtcybybEbybEbybEbybEbybhH5uEgfMvgbqcgbbbefHDHbaJqHmkgqaQbDsHlVeBNeDcaVpgb",
    "dbbbobMeHBIddadaHLudbAbbbacabjbdbabagaeabababcbbbacabababababbbacdbgbdbdbabjbqfcbebqZuzg",
    "zgzJZwHP2FHaKHzgMDcL0boNPqpZnITcWDHVcK6kfKIF"]⟩,
  ⟨["ahex", "asciihexdigit"],
   ["HqjhfAf"]⟩,
  ⟨["bidic", "bidicontrol"],
   ["HWCaMVrbAeHxd"]⟩,
  ⟨["bidim", "bidimirrored"],
   ["HibsabaCabaDabaHnapaJZEdH6DbISCbkbHwbobLraMaddfdadbddbdbabaeifabrfdjbbabhbFcdfajbcsfbjec",
    "bexcpidubhbHHDnIkacdbbbcfdfcdnStvcfbniahfdaeebbceeabccbkfcbmsbdcabacabdfbgcyblbedbbcbeHk",
    "chbHhfabadefceadebaOaaWdddbbbobcjHlhTljchHZXDffbLcbsabaCabaDababbbbH17xaHzaHzaHzaHza"]⟩,
  ⟨["cased"],
   ["IbzgzHpakaeafwbEbMcbdeMpcHchbEeJaaHkdcbcdbagabcbabtbIsbKkiLfbHfjHiI4xHfbafacHkbd1aIvcfIK",
    "ckfHkccIaLFIaOvcfcHfcfchbabababEcHubgbadcbgddcfemfcbgJuanaqmJfaeacjbadegabababdbfeacdfee",
    "arFdb5rHtH4wNegddbmHfbafa+OsHnsDKeJfddbHDcbbabhvebc5vHkbngIpZ6agmeHGjzgzHLfIpJaHdeHdJukb",
    "obgbbbkbobgbbUdaccbHjbiHMfHsnHsIDvkvI4AHF1RaHF5SaIubIgbbcacbcdblbabgbIabdchbgbBbdbebadgb",
    "QtcybybEbybEbybEbybEbybhH5ujbtgfOfHDIKsIdH*mzgzgz"]⟩,
  ⟨["ci", "caseignorable"],
   ["HhagalaHdabaIhaeabaeacbVxLFebeajbbaNBgMpafaHrHmbabbbbbaHmalfkkbaHdakuqaJfhbjbdHbabaEAIBk",
    "HAkeacayxHlcHmahbfiHjHzHxabaeheadgkbnapaHAaediaubAacbHzaebebccdaEbdalbHzaeebbeaubwfbaHAa",
    "cabdiahblbEaHDamaHsadaHxabcfcbdhblbDaHAacagafbubCbHzbediaubDaIiahcbaIAacgliJcacijabgIjbB",
    "ababaHxnbebbfkbHdjaJgdbfbbcbzbecqdnacbgapaIEaZac9scDbEbEbIabbgiackdafaHneHtaIbbHcaJwcebj",
    "agcMBbcaHAabgbabachgjcaHhaiEHrdHqabebafaHiimbHadcbbcHyabbdabcHAhcbIafIscbmbgeagadbHsHEna",
    "HcJeTDabclcncncnbmeibkacaceHrebjbanaqmHtHaI8lbJrcJDapaJaFHpaUvaHeddefaIDfIDc74waHNcfOoaJ",
    "cdbjbaCdIqboHbIoaxcJhcdbiadaeazbfaKxbArnaHghzkHocHqacdcbravbIcfcbcbmaiaHdalaHtabccbfbbaB",
    "aobfbbaJeejcJzacaeaZ5qaKtqXDpdampHcacaLjahagalaHdabaHpaHnbIdavcWbaNcaKveHGffbHjbiYgcbbfd",
    "HiceaLfbXDdHgaAebaPBbIpdIgkHrdJBaHwoHjacbkcHrdcbcaeakaHscHeebhHEambHuikdcaIFccabbgacaKDa",
    "dhvbHzbdaHfgdeIgfnababaobIvhccbaxaIufbaebbbNodgbbbBbIvhcabbJkabacfbaJfabacdbeOdibbOabbae",
    "aKqdcbeaHajHifcdiajfccHombbSwgbfbaIsvcgbbbbJAfdabbbgbaIibdabaQBblbHuefabaxaLMvqgoRMildcI",
    "UaeHBgjdVCcHibVcaHFqIabbbWGldbgbbJKEbbdKYCHncwXacjpcgEdKucH9BHweHriaoaweboHQqgbqcgbbbefH",
    "DHbaLanRqaHDdVBeNEb3agJnhI1pe4JGbaEIFKaNp"]⟩,
  ⟨["cwcf", "changeswhencasefolded"],
   ["IbzIAakwbhHaabababababababababababababababababababababababababababacababababababababbbab",
    "abababababababababababababababababababababbbabababbbabbbccdbbbcdbbbbababbbacabbbcbabbdah",
    "bbbbbbabababababababacababababababababacbbabcbababababababababababababababababababababab",
    "abababababababahbbbcabdbabababaNwaHkabadaiagabcbabbbqbiwamcdbbababababababababababababbc",
    "bbabbcHsHqababababababababababababababababajabababababababababababababababababababababab",
    "abababababbbabababababacabababababababababababababababababababababababababababababababab",
    "abababababababababababababababacHfHqaI4yHfbafa5kfIKcjgHkccQaabababababababababababababab",
    "abababababababababababababababababababababababababababababababababababababababababababab",
    "ababababababababababababababababafbcabababababababababababababababababababababababababab",
    "ababababababababababababababababababababababajhifkhihiflabababaihqHpcccffccfldmefccfPjad",
    "bgaHnpta5szH5qHpHqabccabababdbacaicbabababababababababababababababababababababababababab",
    "ababababababababababababababababababababababaiabaea+Qnababababababababababababababababab",
    "abababababatabababababababababababababaKhababababababadababababababababababababababababa",
    "babababababababababababababakababbbabababaeabacabadababababababababababebebababababababa",
    "bdbabbdafabababaya7AIpZ6agmeHGjzHMfHhKiHdKCkbobgbbH3kHsKDvI5AF1SaF+1aHb"]⟩,
  ⟨["cwcm", "changeswhencasemapped"],
   ["IbzgzHAakwbEbHFbItbBcncbbaeICbrgAbbbabbdbbdbecabbcahacabbdffakbLgaHkdcbdcbagabcbabtbHodH",
    "abebKeiLfbHfkHgI4yHfbafacHkcc1aIvcfIKckfHkccLzadaqaJrKBcabJvcfcHfcfchbabababEcHubgbadcbg",
    "ddcfemfcbgPjadbgaBarFdb5rHtH4wJqbbbbhJfhddbmHfbafa+OsHnsBKgncHDjodccebybDcbbabhyb6CaCIpZ",
    "6agmeHGjzgzHLfIpJaHdeHdJukbobgbbbkbobgbbH2dHsnHsIDvkvI4AHF1RaHF+0aId"]⟩,
  ⟨["cwl", "changeswhenlowercased"],
   ["IbzJfwbgHbabababababababababababababababababababababababababababacabababababababacababab",
    "ababababababababababababababababababababbbabadbbabbbccdbbbcdbbbbababbbacabbbcbabbdahbbbb",
    "bbabababababababacababababababababacbbabcbababababababababababababababababababababababab",
    "abababababahbbbcabdbabababaPbabadaiagabcbabbbqbiHdaiabababababababababababafacabbcHsHqab",
    "abababababababababababababababajabababababababababababababababababababababababababababbb",
    "abababababacabababababababababababababababababababababababababababababababababababababab",
    "abababababababababacHfI6jHfbafa2sIvIKtagHkccQaababababababababababababababababababababab",
    "abababababababababababababababababababababababababababababababababababababababababababab",
    "abababababababababajabababababababababababababababababababababababababababababababababab",
    "ababababababababababababababajhifkhihiflabababaihyhihihieleldmelePjadbgaHnpta5szH5qHpHqa",
    "bccabababdbacaicbabababababababababababababababababababababababababababababababababababa",
    "bababababababababababababaiabaea+Qnababababababababababababababababababababababatabababa",
    "babababababababababaKhababababababadabababababababababababababababababababababababababab",
    "ababababakababbbabababaeabacabadababababababababababebebabababababababdbabbdafabababaya1",
    "5lzHMfHhKiHdKCkbobgbbH3kHsKDvI5AF1SaF+1aHb"]⟩,
  ⟨["cwt", "changeswhentitlecased"],
   ["JbzHAaHjxbhbabababababababababababababababababababababababababababacabababababababbbabab",
    "ababababababababababababababababababababacababccabacadafacadccacababacaeacadabacadabaeab",
    "bbbbababababababababbbababababababababcbabadabababababababababababababababababababadabab",
    "ababababababaiacbbaeababababfbbbabbdbbdbecabbcahacabbdffakbLgaHlabadadcsaBHcbbdcbabababa",
    "babababababababebacacaHuHpbababababababababababababababababajabababababababababababababa",
    "bababababababababababababacababababababbbabababababababababababababababababababababababa",
    "babababababababababababababababababababababababaHrHgJZqfIKcibaNoadaqaJsababababababababa",
    "babababababababababababababababababababababababababababababababababababababababababababa",
    "babababababababababababababababababababababgfabababababababababababababababababababababa",
    "babababababababababababababababababababababababababiifkhihifkhihinchihihiebbgadcbbidcbih",
    "kcbbQwaHbpea6lzH6gHpbadbbababagacakababababababababababababababababababababababababababa",
    "bababababababababababababababababababababababaiabaeamHfbafa+Otababababababababababababab",
    "abababababababababatabababababababababababababaKhababababababadababababababababababababa",
    "babababababababababababababababababakabacababababaeaeabbcabababababababababalabababababa",
    "babaeabacadabababababaAa6CaCIpZ6agmeHHjzHMnHhKiHdKBkbobgbbH4dHsJDvI5AF1SaF+1cHb"]⟩,
  ⟨["cwu", "changeswhenuppercased"],
   ["JbzHAaHjxbhbabababababababababababababababababababababababababababacabababababababbbabab",
    "ababababababababababababababababababababacababccabacadafacadccacababacaeacadabacadabafbb",
    "bbbbabababababababbbababababababababbbbbadabababababababababababababababababababadababab",
    "abababababaiacbbaeababababfbbbabbdbbdbecabbcahacabbdffakbLgaHlabadadcsaBHcbbdcbababababa",
    "bababababababebacacaHuHpbababababababababababababababababajababababababababababababababa",
    "babababababababababababacababababababbbababababababababababababababababababababababababa",
    "bababababababababababababababababababababababaHrHgI6iHkcc3yfIKcibaNoadaqaJsababababababa",
    "babababababababababababababababababababababababababababababababababababababababababababa",
    "babababababababababababababababababababababababgfabababababababababababababababababababa",
    "babababababababababababababababababababababababababababiifkhihifkhihincHubbeabadcbbeaddc",
    "bihkcbbeaQraHbpea6lzH6gHpbadbbababagacakabababababababababababababababababababababababab",
    "abababababababababababababababababababababababababaiabaeamHfbafa+Otababababababababababa",
    "babababababababababababatabababababababababababababaKhababababababadabababababababababab",
    "ababababababababababababababababababababakabacababababaeaeabbcabababababababababalababab",
    "ababababaeabacadabababababaAa6CaCIpZ6agmeHHjzHMnHhKiHdKBkbobgbbH4dHsJDvI5AF1SaF+1cHb"]⟩,
  ⟨["dash"],
   ["HnaHQCaHtaJYbaHGfaIGjfHDaHhapaSgaJGeacaFbeaCaTEataJpaHZSqbHfakaLjaJZaaPEa"]⟩,
  ⟨["di", "defaultignorablecodepoint"],
   ["Lna1ba2maI6cbHYtbIveH*BeAeHrpKNuaHZKBpNpaLaaIpiHVLhdLMph4R0fJ*F"]⟩,
  ⟨["dep", "deprecated"],
   ["QjaHPjaIOdabaIHjbIMff1zb73Mwa"]⟩,
  ⟨["dia", "diacritic"],
   ["IEabaIhagaeacbVxKEbhffrbeajbNDeMraHxHmbabbbbbaKdhebKgbebdcIdAIBkHAkHcbJEhHjjqBHDaqaddCaI",
    "kaqaJoaqaJoaqaHpcHCaqahaJxaJoaqaJoaqaJnbqaJCaJpamfbaJlaneIlbBababaebIccbbHEaJqabbHibeezg",
    "bakb2bc9ubEaKukjaQBcPeauhcaHqockJiapaHgiHwbHAalbIcbIafIsyeagaccHsHEHqHdflHfkTDabclcncncn",
    "bJNqcPDaVAfJjdIFa9RsambbaCbIsboHbJgcJnbmaHfaKxaBrHzdHeaIFamaHeaKvcIbdHtaJeejcKabZ5qa4bpO",
    "oabaHpaHnbIda3CaHKFfbHjbiZDceaLfbXBfHgaAeSpcIgkHrdMaaHjaIibJybHEaImajcJibLsbIqbqaygdeIzc",
    "bbnbIFadaJBbNBbJEaJwbJtaOnbOcbeaKCaItasaIraTfaOcabbIraTjbxaLNmoRMzaIUaeHBgXubXcqIqbV*Edb",
    "gbbN4bHncwXacdfihcgEdJ0cHDMcgRxaHDd3Eb3agJncbc"]⟩,
  ⟨["emoji"],
   ["HdagafjJpaeaN8namaMyawaIAfpbRpbmaLgazkecMhaNhbkajaHAdbejacacbcaeacabbcadadbicfabafllbcab",
    "bbasacbsfbabbdbfacbeblbfbcafbbabbubffbdcaeacacfbacababagadagakbpacaeabaecbalbHqcjaoaoaRu",
    "bUpctbHtaeaHMAamaYzabaJVRkaMkaLabmboacjIlzbbxauacivbLoHbcJpcbbccIsccbOgbHElfbxhbchmacdca",
    "ebnbcaibjafcmciccabaeagadagIvHqIffhccejdabbdacjNdleaOBHobjbLyJqmdjfHxhockgi"]⟩,
  ⟨["ecomp", "emojicomponent"],
   ["HdagafjN+taMvaH3PlaH8+wzVBeHTqd4HZmIF"]⟩,
  ⟨["emod", "emojimodifier"],
   ["J8*Be"]⟩,
  ⟨["ebase", "emojimodifierbase"],
   ["PWDaMBaqdJZJxaHCccaccJvbckvsdaecbchabayaMjbeavaebLocdeItaqcjalaXFacaihgajjccHyaHDbbbbarc",
    "bmNfcHki"]⟩,
  ⟨["epres", "emojipresentation"],
   ["O4AbMnddacaWjbvbHslHlatanaibrbfbiafavahbbaeacahaebCaHdabaecbaHDcyaoa6BbHtaeaJXLoaMkaLEac",
    "jIlzbayauacebcvbLoHamibIfbvmHkeemqdadIgbabLAcHEndbxsaAbnaIwIuHqIfgadcccedlbhiNdleaOBHobj",
    "bLyJqmdjfHxhockgi"]⟩,
  ⟨["extpict", "extendedpictographic"],
   ["LjaeaN8namaMyawaIAfpbRpbmaLgazkecMhaNhbkajaHAdbejacacbcaeacabbcadadbicfabafllbcabbbasacb",
    "sfbabbdbfacbeblbfbcafbbabbubffbdcaeacacfbacababagadagakbpacaeabaecbalbHqcjaoaoaRubUpctbH",
    "taeaHMAamaYzabaJVRkaHhdJelpbpaobHfjJqbmboacjtHxBokauacibdjwgLBcJpcbbccIsccbdfNDbHElfbxhb",
    "chmacdcaebnbcaibjafcmciccabaeagadagIvHqIffhcqdabfcmMAHfmdHyhkfHihEbmdcnjHgmHobjbLyIyhoKr",
    "Oa*D"]⟩,
  ⟨["ext", "extender"],
   ["LxaWyb7oaTzaZwaKjaIza3qaJFaIQdaHyaZdaSoaIeaK8jaHleJhbIDc74waHVwa+cawaKjaJmavb1JBaIGqbHUl",
    "aBaeaHMhaPfaJubVscHMpa0LjbHKCbba8QybHLra6uc"]⟩,
  ⟨["grbase", "graphemebase"],
   ["HaIEHbmbYrJqhcfegbabtbMFhLfbHfcHrccHoabacacajAefrjlabHnvpbJeiagbcaeFcabDDIylaoHkjgdxeaja",
    "dahobyfabkfErHjHzHwbabdidbchjcCbbbhcbcvbgbadddabbgbcbbanbbcexfabfebcvbgbbbbbbecydbahjccb",
    "amabibcbvbgbbbeddiabbdapbelhaibbhcbcvbgbbbedacagbcbpbbcerlabfdcbddbbabbdbdcdlfabbdcbcdav",
    "ugcbhbcbwbpdaddtccacbejhjbkbcbwbjbedbcabbybbbejbcokbcbHicabbfcbcbbecbjezcbbrdxbibacgjbgg",
    "hjccmHpbblhimHfbbabebxbabjbbjacebajjcdHaxcAbababnbHdsafaceHrhbfbmHfHmeagacbcycddpembbcfb",
    "obHhbafacRybdcgbabdcHibdcHabdcgbabdcobHybdcIcfCdzgIvcfc0CdIyhrnsdbjrombcpHtcahhbblidjgjg",
    "kfjgIyhecHbbafIfkEedccebbfhadHjcelHlezgkdHycbdHxbajabbifnjgjgnIwHpkddhbCjlcFebgHxbaccban",
    "HpibfodHDfHkcklanahdbfbccafLFIaOvcfcHfcfchbabababEcHubobncfbsccbibkfxhHqqbcAbmdHaHFKle0z",
    "wkvH4tcFbQxdbfHmbafacHxhbpwjgbgbgbgbgbgbgbgHbIDHczbIymMvAHzgpbIveJefHkbIDbIvjHpb8ZmdHwjQ",
    "BuHoeakFcIpcfiMncbbabhvpbcbdbyceejgHxiIdklymbHfiylamDgHpbbebcbbmbkegbybHigbcblcbhbacjcFb",
    "HsbadbcecabayqchlfcfcfjgbgbHBeJubbbddjgQ9dmweHqOOeRncJjHggmefabxbebabbbbbJCqTCcHvhaHapqj",
    "wHcbsbdeebKgeKCcEdfcfcfccdgbgnbclbzbsbbbocnHcJAfceHmdIxbmdaHpHmKdCdHqqAeHdjDfHfkDbHeenHk",
    "KDcjgHdeHdeHhiHtllbobgbbbkbobgbbdHtmPwjvkhyfbHjbiIffcabHlbbdacwbIhiiHqsbbfHadAfaIaHxetcH",
    "opdbcbCkihihHFHaHegljHvdCcAfzhdmgIqIiHxHsnHshHjmjgHfixibMqEbHjdacbqcHBHhivliwredHgBuwjab",
    "HvpgeDbbcamHqebcbbdoyhjjHdfajriHcbclHtjabhebbpbtlrbBdbefbbHFgbabdbobkgHobcnjibbhcbcvbgbb",
    "bedababdcbcbdamgCjbacabHfbabbpabbdabcbbHhHxibdabubabcEHpbbgabbbacacdijLgHobbgdcacAHeHsib",
    "bacdljgmtHkbabbibgjgtCAdabbeajwLzHojacaJeIsmhcachbbbxbebbgdbcjjIghcHjidbdBakHhgbehjagbdH",
    "nnacinIihjLwHbojgibHfoabfkCdFzahacaIlgbbbHfvajjgfbbbHeebbabahjPwscdjobHdibdwIwapHrn8AJgJ",
    "obelMdIYmJcnHHprfzJ8AfYgM1zDmcdjH2gXyhEbjeIqbjgDhakHphokjbgbufsTqHzMgIAJfIkfHxlmIadCL*xi",
    "HMvHjjO3hdbgbbbPcpaDccaodiSlIOeJkfmdihjcacaJ7aNzgTtKCJtHCNvkHgcHBfcwbhDeHCvIbdaJAtmtmIwj",
    "yKhIubIgbbcacbcdblbabgbIabdchbgbBbdbebadgbQtcPdcXrHxdHshbnbgHJuEgfOfHDKsHmkgcjebQaDsHlej",
    "faUqBejMwDckeaVagbdbbbobMeciHqIdhaejeb4rIdImHCMcdbAbbbacabjbdbabagaeabababcbbbacabababab",
    "abbbacdbgbdbdbabjbqfcbebqHubOoHleJdmocobobHekLnHyCnHleihbofKA+xeqdmdJweIEgleapleHxijgHhi",
    "DclebHEQtmncmdjfHxhockgihKsbJfHGgHP2FHaKHzgMDcL0boNPqpZnITcWDHVcK6kfKIF"]⟩,
  ⟨["grext", "graphemeextend"],
   ["4aJpOtgOhHmbabbbbbaIikHquqaJfgcfcbbdHdaEAIBkHAijaydbibcbeHlcHBiHkxbFHxabaeheadgkbDaHAaba",
    "cdiajakbAacbHzaebebccdaEbdalbHzaeebbeaubwfbaHAabbbdiahckbEaHBabamajaHiadaHxabcfcbdhblbDa",
    "HAacbbadcbdhblbCbHzbbacdiajakbDaIiaeaccbaiaIracgmhJcacilgIjbBababaHxnbebbfkbHdjaJgdbfbbc",
    "bzbecqdnacbgapa1Fc9sdCcDbEbIabbgiackjaHncbaJvbHcaJwcebjagcMBbcaHAabgbabachgjcaHqEHrdHqje",
    "cHgimbHadcfHyabbdabeHyhcbKycbmbgeagadbMgHFWmaMdHaI*EcKnaJaFXkfJjb9UudbjHabIqbOqadaeazbfa",
    "KxbArnaHghzkbaHmcHqacdcbcaHeaIdfcbcbmaiaHpaHtabccbfbbaHkbiaNoacaeaZ5qa3bpqpRobYDaNcaKveH",
    "0gcbbfdHiceaLfbXDdIbePDbIpdIgkHrdJBaHwoHjacbkcHrdcbhaHDcHeebhHEambHuibaidcaIFccdgacaKDad",
    "hvbHzbbabamajaogdeIdacfbacabcecbaobIvhccbaxaIracfbacabbbbNlacdgbbbBbIvhcabbJkabachJfabac",
    "dbeOdibbNvakdeaKqdcbeaHajHifcdiajfccHombbSwgbfbaIsvcgbbbbJAfdabbbgbaIibdabaQBblbHuefcxaL",
    "NfagoRMildcIUaeHBgHGyaHFdIralbZLlbKZbHncwWEedfihcgEdKucH9BHweHriaoaweboHQqgbqcgbbbeJeaLa",
    "gRxaHDdVCdNEb3agJng4L2vIFKaNp"]⟩,
  ⟨["grlink", "graphemelink"],
   ["IQnaJFaJFaJFaJFaJFaJFaJFaJnbqaJCaJpaJFaMjaLubH2zbEaKDa0naNdaJfbIgbKSla+0gaHfaKxaKoaJmaPv",
    "aNwa3YraHWgaHjaoaHzaJzbKlaJuaLuaJcaKacJraJFaNCaJFaJwaJuaOnaOdbLbaItasaIraTfaOebIraTjbWVm",
    "a"]⟩,
  ⟨["hex", "hexdigit"],
   ["HqjhfAfH*1jjhfAf"]⟩,
  ⟨["hyphen"],
   ["HnaJFaHMCaKZBaIGjbJWfa3daHZRhaLjaIxa"]⟩,
  ⟨["idcompatmathcontinue"],
   ["LsbfaN9wadkboRtaeawaJTLcazaFazaFazaFazaFaza"]⟩,
  ⟨["idcompatmathstart"],
   ["OWcaeawaJTLcazaFazaFazaFazaFaza"]⟩,
  ⟨["idc", "idcontinue"],
   ["HqjhzeabzHpakabacafwbEbUjeloehabarJubbcdbagebabtbIsbKkbecLfbHfcagHiiHmbabbbbbaiAedDkfIje",
    "JfbhcjbscaqHAcJeoHveacacHnsBekfxbfiIkbKacjbsbhcbcvbgbaddcicbcdiaebbeclkabaccbfebcvbgbbbb",
    "bbcabeebccdahdbahplcbibcbvbgbbbecjbcbccapdcjjgbcbhcbcvbgbbbecicbcchcebbecjbaqbbfdcbddbba",
    "bbdbdcdleedcbdcagaojqmbcbwbpcibcbdhbbccacdcjqdbhbcbwbjbecibcbdhbgbbdcjbcmmbcbHsbcbefdhec",
    "jkfbcbrdxbibacgdaefbabhgjcbnHzfobjHhbbabebxbabwcebabgbjcdHaaxbgjlababaejbHdetbrbHdjaHzIj",
    "gIncHfbafacHkbQmbdcgbabdcHibdcHabdcgbabdcobHybdcIcccjiopqIvcfdZlcqbzfIkdkhvjvltmmbcbbmIt",
    "daebcjHbcbkgIyhHkfIfkEblelkHhcelHlezgkHfBeHEbCckgjnainbpHrImdjrimJtmHxijdHqckfHkccqcbHgf",
    "WvcfcHfcfchbabababEcHubgbadcbgddcfemfcbgpbHrbtaCanaqmHtmeadlraeacjbacfgabababpcdfeearHiI",
    "ZxNegimHfbafacHxhapxjgbgbgbgbgbgbgbgbFWfczobeceeIvcgbIEfHkbIDrFHqpWaMTFIa10mIdHncOmdBuHp",
    "ejbJsHficJgcIccbbabhvHveatHtmIfkjgxdabHqcHdmCdIaokgEbHwjncjgwdIiyccpcekfcfcfjgbgbHkbngJA",
    "bbcjgQ9dmweHqOOeRncJjHggmeflbmbebabbbbbJlHbRksHFcHvHilepqpdbycHaebKgtjhzeabzkIzdfcfcfccH",
    "dlbzbsbbbocnHcJAIfHuKiaKcCdHqpaFFnDfHkfDcHdehbeHkKDcjgHdeHdeHhiHtmkbobgbbbkbobgbbdHtmPwj",
    "vkhyfbHjbiIffcabHlbbdacwkwjEIbsbbkvkzIgHxgbIadbbfhbcbCcceaHaCdCHdhbDzHvkvksnrJoIiHxHsnHs",
    "nHhijgHfdebwNAHjbbdbqcHxHakaiHaFvHkuBwjIgFpjHBhanyhjgHubjediHdcajIeedbmbaHdrbHegdHEgbabd",
    "bobjhHAfjgdbhcbcvbgbbbebjcbcccagafgcgdeljbacabHfbjbacabdbhnbDIkfjedEIfbaijLgHvcixfHcIada",
    "ljHgHyhjgtCAcoejggLzHAJfIjvhcachbbbDbbcimjIghcHnchbbBHEiaiIjdasIiMhHapjgibHmbipjyDcvbnIj",
    "gbbbHldabbbiijgfbbbHebbbfhjPwwjqbHidenkIvaIp8zJgJorMdIYmJapHHpqvkJ8AfYgM1zHzH2gXyhEbjgIo",
    "bjgDcelHwjdmjjufsTqHmdjMgHFKaIkeHyhqIabbblboL*xiHMvHjjO3hdbgbbbPcpaDccaodiSlIOeJkfmdihjd",
    "bKIrjWgHncwWEedfihcgEdKucTBIubIgbbcacbcdblbabgbIabdchbgbBbdbebadgbQtcybybEbybEbybEbybEby",
    "bhcHrWaHweHriaoaweboHIqEgfMvgbqcgbbbefHDHbaJqHmdncjeaQbErHzUwHjMwHkVfgbdbbbobMelgHjIlejH",
    "LgdbAbbbacabjbdbabagaeabababcbbbacabababababbbacdbgbdbdbabjbqfcbebqJPujHGgHP2FHaKHzgMDcL",
    "0boNPqpZnITcWDHVcK6kfKIF13QqNp"]⟩,
  ⟨["ideo", "ideographic"],
   ["SGgbzioc+fMTFIa0VF2OaRncJj9OkaBL*xiHMvHjjPJhSlZOeHP2FHaKHzgMDcL0boNPqpZnITcWDHVcK6kfKIF"]⟩,
  ⟨["idsb", "idsbinaryoperator"],
   ["R*qbcjVra"]⟩,
  ⟨["ids", "idstart"],
   ["IbzgzHpakaeafwbEbUjeloehabaKbebbcdbagabcbabtbIsbKkiLfbHfcagHiIhAedHnHkHdbbJcbapbhbkccaqa",
    "bDDIylayHajbeafveajadaxyhkfxbfrHjHAHvdasahjppehcbcvbgbadddaqanbbcobkaifebcvbgbbbbbbFdbat",
    "cqibcbvbgbbbedasapbxalhcbcvbgbbbedaEbbcparabfdcbddbbabbdbdcdlwaHuhbcbwbpdaAccacbEaehbcbw",
    "bjbedaFbbbpbribcbHicaqafcicyffrdxbibacgHAHpbbmgHAbbabebxbabjbbjacebavdHaaHFhbHdBeJtHkuaq",
    "feddadbhcemmarHfbafacHkbQmbdcgbabdcHibdcHabdcgbabdcobHybdcIcHfpqIvcfdZlcqbzfIkdkhrnsorom",
    "bcpHtHdaeaIdIyhHibafIfkEHrDcelHlezHwwjHuIsaIDHorhHwDnbkHlAHdHjckHdckfHkccHjdbfbbdafLFIaO",
    "vcfcHfcfchbabababEcHubgbadcbgddcfemfcbgJuanaqmJfaeacjbacfgabababpcdfeearHiIZxNegddbmHfba",
    "facHxhaqwjgbgbgbgbgbgbgbgXgcziheceeIveebIzbdfHkbIDrFHqpWaMTFIa10mIdHncOmdpkbuHoqEcIpHhic",
    "JgcIccbbabhvpbcbdbwDHtoHrHEfdabblBkwzChHoCaqebjkebHixcbhuwdadHrbadbcecabaycckhcmfcfcfjgb",
    "gbHkbngJsDQ9dmweHqOOeRncJjHggmefabjbmbebabbbbbJlHbRksHFcHvHilJuebKgHezgzlIydfcfcfccHdlbz",
    "bsbbbocnHcJAIfHuOlCdHqHpFnDfHfkDcHdehbeHkKDsHdeHdeHhiHtmkbobgbbbkbobgbbdHtmPwjvkhyfbHjbi",
    "IffcabHlbbdacwkwjEIbsbbkvkzIgHxgbIaapdbcbCHkCdCHdhbBBHvkvksnrJoIiHxHsnHsnHdHgBjwNAHjgbqc",
    "HBCkaivHkrHouBwmHuHzbcanHmHayAHdDacaiHcdamHpodvabaHdrbytbHFgbabdbobjhHoHghcbcvbgbbbedasa",
    "meEjbacabHfbazabaHmHusducEHpubbaLyHoHjdHeHpuaHBHknaIhAHfgLzHlJuHFFhcachbbbxpabaIEhcHgqab",
    "aCakHhhavalHntasIiMhHaFibHeraHrDJqgbbbHfvazfbbbFoaQhspabmbHbJCaIp8zJgJorMdIYmJapHHprfzJ8",
    "AfYgM1zDH3cXyhErIorDsHpqdFufsTqHmMtHFKaIkfaIcmIabbaCL*xiHMvHjjO3hdbgbbbPcpaDccaodiSlIOeJ",
    "kfmdihjL7gIubIgbbcacbcdblbabgbIabdchbgbBbdbebadgbQtcybybEbybEbybEbybEbybhH5uEgfOfHDKsHmk",
    "gqaQbDsHlVeBNeDcaVpgbdbbbobMeHBIdhaHLudbAbbbacabjbdbabagaeabababcbbbacabababababbbacdbgb",
    "dbdbabjbqfcbebqKQeHP2FHaKHzgMDcL0boNPqpZnITcWDHVcK6kfKIF"]⟩,
  ⟨["idst", "idstrinaryoperator"],
   ["R*sb"]⟩,
  ⟨["idsu", "idsunaryoperator"],
   ["R*Eb"]⟩,
  ⟨["joinc", "joincontrol"],
   ["OGmb"]⟩,
  ⟨["loe", "logicalorderexception"],
   ["JYaeJBeI3qccaHKNAbcabb"]⟩,
  ⟨["lower", "lowercase"],
   ["JbzHpakaeaHexbhbabababababababababababababababababababababababababababbbabababababababbb",
    "ababababababababababababababababababababababacababccabacadbeacadccacababacabbbacadabacbc",
    "cgacacababababababababbbababababababababbcabadababababababababababababababababababababab",
    "ababababababababgcacbbaeababababIecHchbEeJaaHlabadacdsaBHcbbdcbabababababababababababeba",
    "cacbHtHpbababababababababababababababababajababababababababababababababababababababababa",
    "babababacababababababbbababababababababababababababababababababababababababababababababa",
    "bababababababababababababababaHqHiI6hHkbd3yfIKcibaJvLFIbabababababababababababababababab",
    "abababababababababababababababababababababababababababababababababababababababababababab",
    "ababababababababababababababibababababababababababababababababababababababababababababab",
    "abababababababababababababababababababiifkhihifkhihinchihihiebbgadcbbidcbihkcbbJzanaqmJn",
    "adbdaBaeaeacbideaHbpea6lzH6gHpbadbbababaeabbbhdababababababababababababababababababababa",
    "bababababababababababababababababababababababababababababbhabaeamHfbafa+Otababababababab",
    "abababababababababababababababatabababababababababababababcKfababababababcbababababababa",
    "babababababababababababababababababababababababjbabacababababaeabacabcbababababababababa",
    "bafafabababababababaeabacadabababababawcbabc5vHkbngIpZ6agmeHHjzHMnHhKiHdKBkbobgbbUdaccbH",
    "jbiHOfHsJDvI5AF1SaF5SAzAgbrAzAdbabgbkAzAzAzAzAzAzAzAzABCybfAybfAybfAybfAybfbaH5ujbtgfOfH",
    "DILuHb"]⟩,
  ⟨["math"],
   ["HlaqcFaDabaHnaeaHfaFa2yccaAbccWpcMWnaBcladanaodveleIbmeadbeesaeacjbacfgadbcbbcbfdnbaIexb",
    "fbbebeFbagboOlidubIAaEAbayalgTDbmjefebcbdeoabacflhfbHzabaDdjcQqHFOaVFHqucfHZ+Ca5xfbaLcaq",
    "cDabaDabaKdagdJTbbHXZqIubIgbbcacbcdblbabgbIabdchbgbBbdbebadgbQtcPdcHrLWadbAbbbacabjbdbab",
    "agaeabababcbbbacabababababbbacdbgbdbdbabjbqfcbebqHub"]⟩,
  ⟨["mcm", "modifiercombiningmark"],
   ["HYubcaKdagadbVbbbcdaFa"]⟩,
  ⟨["nchar", "noncharactercodepoint"],
   ["H*UqFWobH**EbH**EbH**EbH**EbH**EbH**EbH**EbH**EbH**EbH**EbH**EbH**EbH**EbH**EbH**EbH**Eb"]⟩,
  ⟨["oalpha", "otheralphabetic"],
   ["6faDmYanbabbbbbaIikHqmbgqaJfgedcbeaHdaEpJgkJfbdibcbdJkaHCldggtHwbcobbfckbDcHAgcbcbkakbDc",
    "HAeebcbeaEbdalcHAhbcbbvbwcecHAgcbcbjbkbEaHBedcbckaHieHzgbcbciblbDcHAgbcbciblbpamdHAgbcbc",
    "kakbDcIlfbabhsbHDacgsaJdacfbbqaLdsjkbHdJolbacdxdecbccgddnlbakdHZubEbEbEbIcsLCbHcaJwleiME",
    "eHzjctIkblcHreHqoHCcEicbHzkHssSCHbH2bHtINwF+JuhHcbRcaiaxeIybHspbaHzaHgeClHndHqlHfaIdnmai",
    "bHncHsabccbfaHmefaNnhZ5taIIxeH0gcbbfd4udIbaQbbIpaOdcHvnHnblcHnijaHDcHelsbHzcHqmobICicaga",
    "caKDjxdHAgcbcbkakbIuibacabdbbJhmbcJkrNngcgDbIsobaJkkJhnObmNxfbbcbdabaKogcfeaCjHkebdskHon",
    "SxhbgItvbnJAfdabbbcbadaIcebbbdQCdjbbaHqgdcWUDqJXaabHwhdIDbZLmaO7bgbqcgbbbeJeaILxaH*izgzg",
    "z"]⟩,
  ⟨["odi", "otherdefaultignorablecodepoint"],
   ["6paJWpbHYtbILpaKNEaHZXBaIpi6GGhabDJaJFNqJWp"]⟩,
  ⟨["ogrext", "othergraphemeextend"],
   ["ITEayaRgayaJgayaNiabaebbbjbJhayaJxapaIPvaEaHGaafabafbJfaIhbHGyaKHbb+PdaJma1UDbKXaaJuaOia",
    "oajaJaajacabcfaNaamaNraOgaZzamaHWda0Lob4Rtbgf4R1nIF"]⟩,
  ⟨["oidc", "otheridcontinue"],
   ["Lxa2paJ*biHZiaHXrbKNnaHZZja"]⟩,
  ⟨["oids", "otheridstart"],
   ["MKfbIKravaJ7mb"]⟩,
  ⟨["olower", "otherlowercase"],
   ["LkapaVvihbEeJaaHuaJSbaJHpHEnaHcHe1ranaqmMtp6qzH8sb+WEbMsaKbcdb7cdja3GwaccbHjbiH2JvHD"]⟩,
  ⟨["omath", "othermath"],
   ["IEa7rccaAbcbNHaaBclaHadybobIbmeadbeesaeacjbadegadbcbbcbfddfeIlecdbbbbbabecbebercbbabgbag",
    "bPcdLibbayaraTDbmifefbcbdeoabacfybHzabaDdjbQwbFjStvHFdHabH1JdabaeaMtabaH1MbIubIgbbcacbcd",
    "blbabgbIabdchbgbBbdbebadgbQtcybybEbybEbybEbybEbybhcHrLWadbAbbbacabjbdbabagaeabababcbbbac",
    "abababababbbacdbgbdbdbabjbqfcbebq"]⟩,
  ⟨["oupper", "otheruppercase"],
   ["ORap6gzJZJazgzgz"]⟩,
  ⟨["patsyn", "patternsyntax"],
   ["HbokgAdbaAdHcgbabbbabbeaeadaxaFaN4yxiocsbjPr2pLaZvEHJlWaJFSbceypaHZOnbOfb"]⟩,
  ⟨["patws", "patternwhitespace"],
   ["jesaJeaN8ibyb"]⟩,
  ⟨["pcm", "prependedconcatenationmark"],
   ["HWafMxaHraSabIqaIH+Aapa"]⟩,
  ⟨["qmark", "quotationmark"],
   ["HcaeaKdapaN6ChzbJWhaUjdncHZXbdLDaeaIAb"]⟩,
  ⟨["radical"],
   ["R0azbIymMv"]⟩,
  ⟨["ri", "regionalindicator"],
   ["J8Vgz"]⟩,
  ⟨["sterm", "sentenceterminal"],
   ["HbamaqaHQjaKtcLuaHlcNwaHDabadbPfbH3eb4waeb4faMgbKDbHnafaPAbRcdLcbkbcbDcLBbIbb9eaxbjcJLpc",
    "PsanawbTna9NCaOobNdadaREbIwbIFaKybKtcKqbNza0XgacbHBadbLjamaqaIbaI3ubHNDeHmdLDbJvdJFcKbbg",
    "aqbIybbbJmaPkbJvbRvbfoJjbNzcWfabaNBbIxbTeb1ubIkbY5jbKfaIbblaXjbPiaZWgaNVia"]⟩,
  ⟨["sd", "softdotted"],
   ["JjbMeaOzaEaHuauaQaaJcabaMOjaHtanadaKeaKDaTfaMwbI5saJP9fbHsbHsbHsbHsbHsbHsbHsbHsbHsbHsbHs",
    "bHsbIKgaPrbAa"]⟩,
  ⟨["term", "terminalpunctuation"],
   ["Hbakabalbda5EaiaWbaHzaIiaoabcLuaHlkbaNlbHwfbhFaOfbHNubLmaefPxb4vh4faJCcIhbKDcdaHhdcbPAbR",
    "cdLcbkbbcDcLBeHEb9eaxbjcJLpcPsanaeakabbdbTmb9NBbOncNdeREbIwbIFaKxcKtcJFaqbNza0XgacbHzcbd",
    "LjakabalbdaIbacaHHAaHqaHKgaMhaPwbKyfIefIzd9yeHmdLDgJqdJFcKbbgaqbIyeJmaPkbJvcmbRgddoJjbNz",
    "cWfabaNBbIxbebSEcHna0fbIkbHPleXVzbKfaIbckaXjbPhbZWgaNVhd"]⟩,
  ⟨["uideo", "unifiedideograph"],
   ["TGaMTFIa0VF2WobbabbkababbccIHUwHP2FHaKHzgMDcL0boNPqpZnKTcK6kfKIF"]⟩,
  ⟨["upper", "uppercase"],
   ["IbzJfwbgHbabababababababababababababababababababababababababababacabababababababacababab",
    "ababababababababababababababababababababbbabadbbabbbccdbbbcdbbbbababbbacabbbcbabbdahacac",
    "acabababababababacababababababababacacabcbababababababababababababababababababababababab",
    "abababababahbbbcabdbabababaPbabadaiagabcbabbbqbiHdaccdabababababababababababafacabbcHsHq",
    "ababababababababababababababababajababababababababababababababababababababababababababab",
    "bbabababababacababababababababababababababababababababababababababababababababababababab",
    "ababababababababababacHfI6jHfbafa2sIvIKtagHkccQaabababababababababababababababababababab",
    "abababababababababababababababababababababababababababababababababababababababababababab",
    "ababababababababababajababababababababababababababababababababababababababababababababab",
    "abababababababababababababababajhifkhihiflabababaihIidmdmdmeldOgaeadccccadegabababdcdkbf",
    "aApta5szH5qHpHqabccabababdbacaicbabababababababababababababababababababababababababababa",
    "bababababababababababababababababababababaiabaea+Qnababababababababababababababababababa",
    "babababatabababababababababababababaKhababababababadabababababababababababababababababab",
    "ababababababababababababakababbbabababaeabacabadababababababababababebebabababababababdb",
    "abbdafabababaya15lzHMfHhKiHdKCkbobgbbH3kHsKDvI5AF1SaF5TazAzAzAabbcacbcdbhAzAbbdchbgBbbdb",
    "ebadgBzAzAzAzAzAzEyHbyHbyHbyHbyHbaKPvHbIGozgzgz"]⟩,
  ⟨["vs", "variationselector"],
   ["MGlcbaH5Vqp6G3qNp"]⟩,
  ⟨["wspace", "whitespace", "space"],
   ["jesaJeaAaLUFaIRFkDbfaHpaJ9aa"]⟩,
  ⟨["xidc", "xidcontinue"],
   ["HqjhzeabzHpakabacafwbEbUjeloehabarJubbdcbagebabtbIsbKkbecLfbHfcagHiiHmbabbbbbaiAedDkfIje",
    "JfbhcjbscaqHAcJeoHveacacHnsBekfxbfiIkbKacjbsbhcbcvbgbaddcicbcdiaebbeclkabaccbfebcvbgbbbb",
    "bbcabeebccdahdbahplcbibcbvbgbbbecjbcbccapdcjjgbcbhcbcvbgbbbecicbcchcebbecjbaqbbfdcbddbba",
    "bbdbdcdleedcbdcagaojqmbcbwbpcibcbdhbbccacdcjqdbhbcbwbjbecibcbdhbgbbdcjbcmmbcbHsbcbefdhec",
    "jkfbcbrdxbibacgdaefbabhgjcbnHzfobjHhbbabebxbabwcebabgbjcdHaaxbgjlababaejbHdetbrbHdjaHzIj",
    "gIncHfbafacHkbQmbdcgbabdcHibdcHabdcgbabdcobHybdcIcccjiopqIvcfdZlcqbzfIkdkhvjvltmmbcbbmIt",
    "daebcjHbcbkgIyhHkfIfkEblelkHhcelHlezgkHfBeHEbCckgjnainbpHrImdjrimJtmHxijdHqckfHkccqcbHgf",
    "WvcfcHfcfchbabababEcHubgbadcbgddcfemfcbgpbHrbtaCanaqmHtmeadlraeacjbacfgabababpcdfeearHiI",
    "ZxNegimHfbafacHxhapxjgbgbgbgbgbgbgbgbFWfczobeceeIvcbccbIEfHkbIDrFHqpWaMTFIa10mIdHncOmdBu",
    "HpejbJsHficJgcIccbbabhvHveatHtmIfkjgxdabHqcHdmCdIaokgEbHwjncjgwdIiyccpcekfcfcfjgbgbHkbng",
    "JAbbcjgQ9dmweHqOOeRncJjHggmeflbmbebabbbbbJlHbKkgMzsHFcHvHijgpqpdbycHbabadababababJDtjhze",
    "abzkIzdfcfcfccHdlbzbsbbbocnHcJAIfHuKiaKcCdHqpaFFnDfHkfDcHdehbeHkKDcjgHdeHdeHhiHtmkbobgbb",
    "bkbobgbbdHtmPwjvkhyfbHjbiIffcabHlbbdacwkwjEIbsbbkvkzIgHxgbIadbbfhbcbCcceaHaCdCHdhbDzHvkv",
    "ksnrJoIiHxHsnHsnHhijgHfdebwNAHjbbdbqcHxHakaiHaFvHkuBwjIgFpjHBhanyhjgHubjediHdcajIeedbmba",
    "HdrbHegdHEgbabdbobjhHAfjgdbhcbcvbgbbbebjcbcccagafgcgdeljbacabHfbjbacabdbhnbDIkfjedEIfbai",
    "jLgHvcixfHcIadaljHgHyhjgtCAcoejggLzHAJfIjvhcachbbbDbbcimjIghcHnchbbBHEiaiIjdasIiMhHapjgi",
    "bHmbipjyDcvbnIjgbbbHldabbbiijgfbbbHebbbfhjPwwjqbHidenkIvaIp8zJgJorMdIYmJapHHpqvkJ8AfYgM1",
    "zHzH2gXyhEbjgIobjgDcelHwjdmjjufsTqHmdjMgHFKaIkeHyhqIabbblboL*xiHMvHjjO3hdbgbbbPcpaDccaod",
    "iSlIOeJkfmdihjdbKIrjWgHncwWEedfihcgEdKucTBIubIgbbcacbcdblbabgbIabdchbgbBbdbebadgbQtcybyb",
    "EbybEbybEbybEbybhcHrWaHweHriaoaweboHIqEgfMvgbqcgbbbefHDHbaJqHmdncjeaQbErHzUwHjMwHkVfgbdb",
    "bbobMelgHjIlejHLgdbAbbbacabjbdbabagaeabababcbbbacabababababbbacdbgbdbdbabjbqfcbebqJPujHG",
    "gHP2FHaKHzgMDcL0boNPqpZnITcWDHVcK6kfKIF13QqNp"]⟩,
  ⟨["xids", "xidstart"],
   ["IbzgzHpakaeafwbEbUjeloehabaKbebbdcbagabcbabtbIsbKkiLfbHfcagHiIhAedHnHkHdbbJcbapbhbkccaqa",
    "bDDIylayHajbeafveajadaxyhkfxbfrHjHAHvdasahjppehcbcvbgbadddaqanbbcobkaifebcvbgbbbbbbFdbat",
    "cqibcbvbgbbbedasapbxalhcbcvbgbbbedaEbbcparabfdcbddbbabbdbdcdlwaHuhbcbwbpdaAccacbEaehbcbw",
    "bjbedaFbbbpbribcbHicaqafcicyffrdxbibacgHAHpbangHAbbabebxbabjbakacebavdHaaHFhbHdBeJtHkuaq",
    "feddadbhcemmarHfbafacHkbQmbdcgbabdcHibdcHabdcgbabdcobHybdcIcHfpqIvcfdZlcqbzfIkdkhrnsorom",
    "bcpHtHdaeaIdIyhHibafIfkEHrDcelHlezHwwjHuIsaIDHorhHwDnbkHlAHdHjckHdckfHkccHjdbfbbdafLFIaO",
    "vcfcHfcfchbabababEcHubgbadcbgddcfemfcbgJuanaqmJfaeacjbacfgabababpcdfeearHiIZxNegddbmHfba",
    "facHxhaqwjgbgbgbgbgbgbgbgXgcziheceeIvgcbIzbdfHkbIDrFHqpWaMTFIa10mIdHncOmdpkbuHoqEcIpHhic",
    "JgcIccbbabhvpbcbdbwDHtoHrHEfdabblBkwzChHoCaqebjkebHixcbhuwdadHrbadbcecabaycckhcmfcfcfjgb",
    "gbHkbngJsDQ9dmweHqOOeRncJjHggmefabjbmbebabbbbbJlHbKkgMzsHFcHvHijJxabadababababJDHezgzlHx",
    "cEdfcfcfccHdlbzbsbbbocnHcJAIfHuOlCdHqHpFnDfHfkDcHdehbeHkKDsHdeHdeHhiHtmkbobgbbbkbobgbbdH",
    "tmPwjvkhyfbHjbiIffcabHlbbdacwkwjEIbsbbkvkzIgHxgbIaapdbcbCHkCdCHdhbBBHvkvksnrJoIiHxHsnHsn",
    "HdHgBjwNAHjgbqcHBCkaivHkrHouBwmHuHzbcanHmHayAHdDacaiHcdamHpodvabaHdrbytbHFgbabdbobjhHoHg",
    "hcbcvbgbbbedasameEjbacabHfbazabaHmHusducEHpubbaLyHoHjdHeHpuaHBHknaIhAHfgLzHlJuHFFhcachbb",
    "bxpabaIEhcHgqabaCakHhhavalHntasIiMhHaFibHeraHrDJqgbbbHfvazfbbbFoaQhspabmbHbJCaIp8zJgJorM",
    "dIYmJapHHprfzJ8AfYgM1zDH3cXyhErIorDsHpqdFufsTqHmMtHFKaIkfaIcmIabbaCL*xiHMvHjjO3hdbgbbbPc",
    "paDccaodiSlIOeJkfmdihjL7gIubIgbbcacbcdblbabgbIabdchbgbBbdbebadgbQtcybybEbybEbybEbybEbybh",
    "H5uEgfOfHDKsHmkgqaQbDsHlVeBNeDcaVpgbdbbbobMeHBIdhaHLudbAbbbacabjbdbabagaeabababcbbbacaba",
    "babababbbacdbgbdbdbabjbqfcbebqKQeHP2FHaKHzgMDcL0boNPqpZnITcWDHVcK6kfKIF"]⟩]

end PublishGate.Pattern.Unicode
