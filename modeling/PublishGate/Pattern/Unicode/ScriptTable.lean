import PublishGate.Pattern.Unicode.Packed

/-! # Scripts of Unicode 16 -/

namespace PublishGate.Pattern.Unicode

def scripts : List Packed := [
  ⟨["adlm", "adlam"],
   ["J6OaIlejeb"]⟩,
  ⟨["ahom"],
   ["IL4aAcoew"]⟩,
  ⟨["hluw", "anatolianhieroglyphs"],
   ["IXGaYg"]⟩,
  ⟨["arab", "arabic"],
   ["HWaebfbnbcbFbjlzbJlbHbIqHpNqEbbfIkbCH8YqJsqRkcIpcHvhaHapJqebKgJ7dEIdcHxdH34adbAbbbacabjb",
    "dbabagaeabababcbbbacabababababbbacdbgbdbdbabjbqfcbebqHub"]⟩,
  ⟨["armn", "armenian"],
   ["HPrHfcHrccH9Sde"]⟩,
  ⟨["avst", "avestan"],
   ["II4aHvdg"]⟩,
  ⟨["bali", "balinese"],
   ["M4aImbHr"]⟩,
  ⟨["bamu", "bamum"],
   ["HP1aIxHWOiXy"]⟩,
  ⟨["bass", "bassavah"],
   ["I62qDcf"]⟩,
  ⟨["batk", "batak"],
   ["M+aHtid"]⟩,
  ⟨["beng", "bengali"],
   ["ISadbhcbcvbgbaddcicbcdiaebbecy"]⟩,
  ⟨["bhks", "bhaiksuki"],
   ["INGaibHmbnkC"]⟩,
  ⟨["bopo", "bopomofo"],
   ["3kbRWzHkJqF"]⟩,
  ⟨["brah", "brahmi"],
   ["IKGaIneHdja"]⟩,
  ⟨["brai", "braille"],
   ["QGaNF"]⟩,
  ⟨["bugi", "buginese"],
   ["MWaBcb"]⟩,
  ⟨["buhd", "buhid"],
   ["L6at"]⟩,
  ⟨["cans", "canadianaboriginal"],
   ["LGaZFXqIfIGTAp"]⟩,
  ⟨["cari", "carian"],
   ["IG1aHq"]⟩,
  ⟨["aghb", "caucasianalbanian"],
   ["IHPqHtla"]⟩,
  ⟨["cakm", "chakma"],
   ["IKOaHubr"]⟩,
  ⟨["cham"],
   ["HQWaHwjncjcd"]⟩,
  ⟨["cher", "cherokee"],
   ["K9aIvcfHL7sIp"]⟩,
  ⟨["chrs", "chorasmian"],
   ["IJ9qB"]⟩,
  ⟨["zyyy", "common"],
   ["aIaAfAHobobexaFaUbHgfectJuajagabaZDagaoadaHaaKCaWeaKbbHMzaSvdPcaHVpcIhbMlbbaHMnanahdbfbc",
    "ca4flcIwbkdkborHaHFHfbccfbAbqHjce0zwkv8FOaZtcFbJiWaIDSsubabyphedIBbdaIAbKtpHaHfjaHqHFFIq",
    "HpaIyLhMUaHF2OaHbJgcLfjNuaLaaSlaob0UsbMqjwHcbsbdKtabFAfAkkaHnbIagbgkeOcceHmdiIqmHtHmNeAH",
    "UTedJ6CNzgTtKCJtHCNvkHgcHDdqibhDeHCMvtmtmIwjyKhIubIgbbcacbcdblbabgbIabdchbgbBbdbebadgbQt",
    "cPdcHrLJrIdImHC2cHleJdmocobobHekLnHyzbbnHleihbofKA+xeqdmdJweIEgleapleHxijgHhiDclebHEQtmn",
    "cmdjfHxhockgihKsbJf4HGhaEIF"]⟩,
  ⟨["copt", "coptic", "qaac"],
   ["*cnQKqJtfg"]⟩,
  ⟨["xsux", "cuneiform"],
   ["IOGa8zJgJobelMd"]⟩,
  ⟨["cprt", "cypriot"],
   ["IIGafcabHlbbdaca"]⟩,
  ⟨["cpmn", "cyprominoan"],
   ["IR8qJc"]⟩,
  ⟨["cyrl", "cyrillic"],
   ["HGaKecLiL6qkLaaImaKJhF+IaIF18obH4WaHDHba"]⟩,
  ⟨["dsrt", "deseret"],
   ["IHGaIp"]⟩,
  ⟨["deva", "devanagari"],
   ["IOaIqeoczHN7aF8Waj"]⟩,
  ⟨["diak", "divesakuru"],
   ["IMOagcachbbbDbbcljj"]⟩,
  ⟨["dogr", "dogra"],
   ["IMGaHB"]⟩,
  ⟨["dupl", "duployan"],
   ["JVGaJkfmdihjcd"]⟩,
  ⟨["egyp", "egyptianhieroglyphs"],
   ["ISGaHIvkJ8A"]⟩,
  ⟨["elba", "elbasan"],
   ["IHOaHh"]⟩,
  ⟨["elym", "elymaic"],
   ["IJ*aw"]⟩,
  ⟨["ethi", "ethiopic"],
   ["KWaIibdcgbabdcHibdcHabdcgbabdcobHybdcIccFdzMVgwjgbgbgbgbgbgbgbg*PcfcfcfjgbgIVLrgbdbbbo"]⟩,
  ⟨["gara", "garay"],
   ["IJQaHfdCib"]⟩,
  ⟨["geor", "georgian"],
   ["KLaHfbafacHkbdI8qHkccKIaHfbafa"]⟩,
  ⟨["glag", "glagolitic"],
   ["RGaIFJS9agbqcgbbbe"]⟩,
  ⟨["goth", "gothic"],
   ["IG5qA"]⟩,
  ⟨["gran", "grantha"],
   ["IK4adbhcbcvbgbbbecicbcccagafgcgde"]⟩,
  ⟨["grek", "greek"],
   ["7qdbccdbaeababcbabtbHEopMPgeHseeeIuaQavcfcHfcfchbabababEcHubobncfbsccbiPhaHIXEa1UAIoraH0",
    "IFIf"]⟩,
  ⟨["gujr", "gujarati"],
   ["I0bcbibcbvbgbbbecjbcbccapdclhg"]⟩,
  ⟨["gong", "gunjalagondi"],
   ["INRafbbbHebbbfhj"]⟩,
  ⟨["guru", "gurmukhi"],
   ["IWbcbfebcvbgbbbbbbcabeebccdahdbahq"]⟩,
  ⟨["gukh", "gurungkhema"],
   ["I4OaHz"]⟩,
  ⟨["hani", "han"],
   ["R0azbIymMvHpabaziod+eMTFIa0VF2OaRncJj9OibmbHKGoHP2FHaKHzgMDcL0boNPqpZnITcWDHVcK6kfKIF"]⟩,
  ⟨["hang", "hangul"],
   ["KOaNFNXobObIDJrEIbE93bC0dQ9dmweHqP9eEdfcfcfcc"]⟩,
  ⟨["rohg", "hanifirohingya"],
   ["IJOaHhij"]⟩,
  ⟨["hano", "hanunoo"],
   ["L5au"]⟩,
  ⟨["hatr", "hatran"],
   ["IINasbbfe"]⟩,
  ⟨["hebr", "hebrew"],
   ["HSrHwiAefH9Pizbebabbbbbj"]⟩,
  ⟨["hira", "hiragana"],
   ["SIbIvgcI*7bOEsaDcWLna"]⟩,
  ⟨["armi", "imperialaramaic"],
   ["IIIavbi"]⟩,
  ⟨["zinh", "inherited", "qaai"],
   ["4aJpOvbUekAa3adKQBEWbcbmbgeagadbMgHFWmbMcHaJ5zdJlbHZRfpqn+paNcaKIAaHU+eHncwXacrhcgEd4R6s",
    "Np"]⟩,
  ⟨["phli", "inscriptionalpahlavi"],
   ["II7asfh"]⟩,
  ⟨["prti", "inscriptionalparthian"],
   ["II6avch"]⟩,
  ⟨["java", "javanese"],
   ["HQSaIncjeb"]⟩,
  ⟨["kthi", "kaithi"],
   ["IKKaIcka"]⟩,
  ⟨["knda", "kannada"],
   ["JKambcbwbjbecibcbdhbgbbdcjbc"]⟩,
  ⟨["kana", "katakana"],
   ["SLbIzccNqpMqHobIxHZGojbHmHSIsdbgbbbaOFcHsaod"]⟩,
  ⟨["kawi"],
   ["IN4aqbHidC"]⟩,
  ⟨["kali", "kayahli"],
   ["HQOaHnba"]⟩,
  ⟨["khar", "kharoshthi"],
   ["IIWadbbfhbcbCccejhi"]⟩,
  ⟨["kits", "khitansmallscript"],
   ["I7*eaM4BUvHja"]⟩,
  ⟨["khmr", "khmer"],
   ["L8aIDcjgjVgF"]⟩,
  ⟨["khoj", "khojki"],
   ["IKWarbHo"]⟩,
  ⟨["sind", "khudawadi"],
   ["IK1qHAfj"]⟩,
  ⟨["krai", "kiratrai"],
   ["I7QaHz"]⟩,
  ⟨["laoo", "lao"],
   ["J0bbbabebxbabwcebabgbjcd"]⟩,
  ⟨["latn", "latin"],
   ["IbzgzHpapafwbEbUaHheMWBHfgHqfdfmbIfIbNFRranaqmKnbgaBarHiI2xF+1cJfdIccbbabhvn5qHkbibdZ8wg",
    "HGAzgzIHffbHjbiH16fEgf"]⟩,
  ⟨["lepc", "lepcha"],
   ["NGaHxdodc"]⟩,
  ⟨["limb", "limbu"],
   ["MOaEbleleadl"]⟩,
  ⟨["lina", "lineara"],
   ["IHWaPwjvkh"]⟩,
  ⟨["linb", "linearb"],
   ["IGGalbzbsbbbocnHcJA"]⟩,
  ⟨["lisu"],
   ["HPMqHp+1qa"]⟩,
  ⟨["lyci", "lycian"],
   ["IG0aC"]⟩,
  ⟨["lydi", "lydian"],
   ["IIPazfa"]⟩,
  ⟨["mahj", "mahajani"],
   ["IKQqHg"]⟩,
  ⟨["maka", "makasar"],
   ["IN3ay"]⟩,
  ⟨["mlym", "malayalam"],
   ["JOambcbHsbcbfepcz"]⟩,
  ⟨["mand", "mandaic"],
   ["IIaBca"]⟩,
  ⟨["mani", "manichaean"],
   ["II2aHgel"]⟩,
  ⟨["marc", "marchen"],
   ["INJqFcvbn"]⟩,
  ⟨["gonm", "masaramgondi"],
   ["INOagbbbHldabbbiij"]⟩,
  ⟨["medf", "medefaidrin"],
   ["I7YaIA"]⟩,
  ⟨["mtei", "meeteimayek"],
   ["HQ3awMjHncj"]⟩,
  ⟨["mend", "mendekikakui"],
   ["J6GaMecp"]⟩,
  ⟨["merc", "meroiticcursive"],
   ["IITaxetcHn"]⟩,
  ⟨["mero", "meroitichieroglyphs"],
   ["IISaF"]⟩,
  ⟨["plrd", "miao"],
   ["I74aIkeHyhq"]⟩,
  ⟨["modi"],
   ["ILWaIelj"]⟩,
  ⟨["mong", "mongolian"],
   ["MGabcabtgIyhHkH*Tvm"]⟩,
  ⟨["mroo", "mro"],
   ["I6YaEbjeb"]⟩,
  ⟨["mult", "multani"],
   ["IK0agbabdbobk"]⟩,
  ⟨["mymr", "myanmar"],
   ["KGaKFHMQaEJbF7Iqt"]⟩,
  ⟨["nbat", "nabataean"],
   ["IIKaEii"]⟩,
  ⟨["nagm", "nagmundari"],
   ["J5MqHj"]⟩,
  ⟨["nand", "nandinagari"],
   ["IMTahcHnck"]⟩,
  ⟨["talu", "newtailue"],
   ["MSaHlezgkdb"]⟩,
  ⟨["newa"],
   ["ILGaIBbe"]⟩,
  ⟨["nkoo", "nko"],
   ["H+aHAcc"]⟩,
  ⟨["nshu", "nushu"],
   ["I7*baWSoSl"]⟩,
  ⟨["hmnp", "nyiakengpuachuehmong"],
   ["J4OaHmdncjeb"]⟩,
  ⟨["ogam", "ogham"],
   ["L0aC"]⟩,
  ⟨["olck", "olchiki"],
   ["NIqHp"]⟩,
  ⟨["onao", "olonal"],
   ["J5UqHkea"]⟩,
  ⟨["hung", "oldhungarian"],
   ["IJKaHsnHshf"]⟩,
  ⟨["ital", "olditalic"],
   ["IG4aHdjc"]⟩,
  ⟨["narb", "oldnortharabian"],
   ["II0aF"]⟩,
  ⟨["perm", "oldpermic"],
   ["IG6qHk"]⟩,
  ⟨["xpeo", "oldpersian"],
   ["IG9aHden"]⟩,
  ⟨["sogo", "oldsogdian"],
   ["IJ4aHh"]⟩,
  ⟨["sarb", "oldsoutharabian"],
   ["IIZaF"]⟩,
  ⟨["orkh", "oldturkic"],
   ["IJGaIi"]⟩,
  ⟨["ougr", "olduyghur"],
   ["IJ7qz"]⟩,
  ⟨["orya", "oriya"],
   ["I4bcbhcbcvbgbbbecicbcchcebbecr"]⟩,
  ⟨["osge", "osage"],
   ["IHLqHdeHd"]⟩,
  ⟨["osma", "osmanya"],
   ["IHKaDcj"]⟩,
  ⟨["hmng", "pahawhhmong"],
   ["I64aIfkjbgbufs"]⟩,
  ⟨["palm", "palmyrene"],
   ["IIJaF"]⟩,
  ⟨["pauc", "paucinhau"],
   ["IM2aHy"]⟩,
  ⟨["phag", "phagspa"],
   ["HQIaHx"]⟩,
  ⟨["phnx", "phoenician"],
   ["IIOaBda"]⟩,
  ⟨["phlp", "psalterpahlavi"],
   ["II8arhdmg"]⟩,
  ⟨["rjng", "rejang"],
   ["HQPqHdla"]⟩,
  ⟨["runr", "runic"],
   ["L1aIkdk"]⟩,
  ⟨["samr", "samaritan"],
   ["IGaHnco"]⟩,
  ⟨["saur", "saurashtra"],
   ["HQKaIfil"]⟩,
  ⟨["shrd", "sharada"],
   ["IKSaIF"]⟩,
  ⟨["shaw", "shavian"],
   ["IHIqHp"]⟩,
  ⟨["sidd", "siddham"],
   ["ILSaHvcHf"]⟩,
  ⟨["sgnw", "signwriting"],
   ["J2Ga0lpebo"]⟩,
  ⟨["sinh", "sinhala"],
   ["JSbcbrdxbibacgdaefbabhgjccIG*mt"]⟩,
  ⟨["sogd", "sogdian"],
   ["IJ5qHj"]⟩,
  ⟨["sora", "sorasompeng"],
   ["IKMqyhj"]⟩,
  ⟨["soyo", "soyombo"],
   ["IMYqIs"]⟩,
  ⟨["sund", "sundanese"],
   ["M8aHFOah"]⟩,
  ⟨["sunu", "sunuwar"],
   ["IM+aHboj"]⟩,
  ⟨["sylo", "sylotinagri"],
   ["HQGaHm"]⟩,
  ⟨["syrc", "syriac"],
   ["H4anbHBccOqk"]⟩,
  ⟨["tglg", "tagalog"],
   ["L4avja"]⟩,
  ⟨["tagb", "tagbanwa"],
   ["L7ambcbb"]⟩,
  ⟨["tale", "taile"],
   ["MQqDce"]⟩,
  ⟨["lana", "taitham"],
   ["MXaHEbCckgjgn"]⟩,
  ⟨["tavt", "taiviet"],
   ["HQ0aIcye"]⟩,
  ⟨["takr", "takri"],
   ["IL0aHzgj"]⟩,
  ⟨["taml", "tamil"],
   ["I8cbbfdcbddbbabbdbdcdleedcbdcagaouIK+fHrna"]⟩,
  ⟨["tnsa", "tangsa"],
   ["I6ZqIobj"]⟩,
  ⟨["tang", "tangut"],
   ["I7*aaFL*xi3FWai"]⟩,
  ⟨["telu", "telugu"],
   ["JGambcbwbpcibcbdhbbccacdcjhi"]⟩,
  ⟨["thaa", "thaana"],
   ["H8aHr"]⟩,
  ⟨["thai"],
   ["JWbHzfB"]⟩,
  ⟨["tibt", "tibetan"],
   ["J4aIhbHdeHgbHdbobgeb"]⟩,
  ⟨["tfng", "tifinagh"],
   ["RPqHxhboa"]⟩,
  ⟨["tirh", "tirhuta"],
   ["ILKaIhij"]⟩,
  ⟨["todr", "todhri"],
   ["IHUaHt"]⟩,
  ⟨["toto"],
   ["J40qE"]⟩,
  ⟨["tutg", "tulutigalari"],
   ["IK8ajbacabHfbjbacabdbjbbib"]⟩,
  ⟨["ugar", "ugaritic"],
   ["IG8aDba"]⟩,
  ⟨["vaii", "vai"],
   ["HPOaPl"]⟩,
  ⟨["vith", "vithkuqi"],
   ["IHRqkbobgbbbkbobgbb"]⟩,
  ⟨["wcho", "wancho"],
   ["J42aHzfa"]⟩,
  ⟨["wara", "warangciti"],
   ["IMLaIsma"]⟩,
  ⟨["yezi", "yezidi"],
   ["IJ0aHjbccb"]⟩,
  ⟨["yiii", "yi"],
   ["HOGaHKmdHw"]⟩,
  ⟨["zanb", "zanabazarsquare"],
   ["IMWaIh"]⟩]

end PublishGate.Pattern.Unicode
