import PublishGate.Pattern.Unicode.Packed

/-! # Script extensions of Unicode 16 -/

namespace PublishGate.Pattern.Unicode

def sharedScripts : List Packed := [
  ⟨["adlm", "adlam"],
   ["HWFaHaaMWoaJVraJU1EIlejeb"]⟩,
  ⟨["arab", "arabic"],
   ["HWaebMwbHbIqHpNqEbbfIkbCL6paJVraHZOoJsqTCcHvhaHapJqebKg*dBI7eEIdcHxdH34adbAbbbacabjbdbab",
    "agaeabababcbbbacabababababbbacdbgbdbdbabjbqfcbebqHub"]⟩,
  ⟨["armn", "armenian"],
   ["4iaXiHfcHrccH9Sde"]⟩,
  ⟨["avst", "avestan"],
   ["LxaRRybH3MoHvdg"]⟩,
  ⟨["beng", "bengali"],
   ["1CaH0ubrbAdbhcbcvbgbaddcicbcdiaebbecyK2rabacbbaiaiacaeaccHI*za"]⟩,
  ⟨["bopo", "bopomofo"],
   ["2habcnaqbROvcejbmkdcagaMdajHkJqFHZKfbOAe"]⟩,
  ⟨["bugi", "buginese"],
   ["MWaBcbHJ9pa"]⟩,
  ⟨["buhd", "buhid"],
   ["L5vbjt"]⟩,
  ⟨["cari", "carian"],
   ["LxaN9cacaJUtaH1JoHq"]⟩,
  ⟨["aghb", "caucasianalbanian"],
   ["4eaHmaHmaIGUrHtla"]⟩,
  ⟨["cakm", "chakma"],
   ["IVgjHYqjIGLwHubr"]⟩,
  ⟨["cher", "cherokee"],
   ["4acbagbwblbKJoIvcfHL7sIp"]⟩,
  ⟨["zyyy", "common"],
   ["aIaAfAHoblbbbexaFaUbcbjbadabibabffectJEagabaZDaMxaWeaHQCaSvdKHhlcHabEbjbbbgbkdkborHaHFHf",
    "bccfbAbqHjce0zwkv8FOaZtcFbJiWawbxcjbdbabzTcadananavaWrxFaHromdLbjfIFFaMUaHF2OizJgc+qaob0",
    "1ejwuclbsbdKtabFAfAfJFgbgkeSsmHtHmHYWdNzgTtKCJtHCNvkHgcHDdqibhDeHCMvtmtmIwBgKhIubIgbbcac",
    "bcdblbabgbIabdchbgbBbdbebadgbQtcPdcHrLJrIdImHC2cHleJdmocobobHekLnHyzbbnHleixfKA+xeqdmdJw",
    "eIEgleapleHxijgHhiDclebHEQtmncmdjfHxhockgihKsbJf4HGhaEIF"]⟩,
  ⟨["copt", "coptic", "qaac"],
   ["LxaYiadbbaJmbJmnQKqJtfgOxaH1MiB"]⟩,
  ⟨["cprt", "cypriot"],
   ["IGOaceHmdiH2afcabHlbbdaca"]⟩,
  ⟨["cpmn", "cyprominoan"],
   ["IGOabR0oJc"]⟩,
  ⟨["cyrl", "cyrillic"],
   ["1CaIdcbababacafaNoPpL6qkLaaImaJFaJ*hFIda9*CIF18obH4WaHDHba"]⟩,
  ⟨["deva", "devanagari"],
   ["1CaHYdIscHkK6qHgbb*waHH5FjLgF8Waj"]⟩,
  ⟨["dogr", "dogra"],
   ["IRelHN2aj7+gHB"]⟩,
  ⟨["dupl", "duployan"],
   ["LxaYpbbaybQ4xaJJUdJkfmdihjch"]⟩,
  ⟨["elba", "elbasan"],
   ["LxaYnaIGVAHh"]⟩,
  ⟨["ethi", "ethiopic"],
   ["4oaJ3rIibdcgbabdcHibdcHabdcgbabdcobHybdcIccFdzMVgwjgbgbgbgbgbgbgbg*PcfcfcfjgbgIVLrgbdbbb",
    "o"]⟩,
  ⟨["gara", "garay"],
   ["HWmaoadaIH5aHfdCib"]⟩,
  ⟨["geor", "georgian"],
   ["LxaHMraI4wHfbafacHpI8qHkcc8AaJLfHfbafaOda"]⟩,
  ⟨["glag", "glagolitic"],
   ["LxaYlabaREacaObaI7raJ6EaI9fIFVda+HlaIUSqgbqcgbbbe"]⟩,
  ⟨["goth", "gothic"],
   ["LxaYmbcaHiaH**EA"]⟩,
  ⟨["gran", "grantha"],
   ["IQrbrb0anKMCabbEcdb*waH8WpdbhcbcvbgbbbebjcbcccagafgcgdeJIBbba"]⟩,
  ⟨["grek", "greek"],
   ["LxaYibcababakaHoacaHkhcdbaeababcbabtbHEopMPgeHseeeIucPEvcfcHfcfchbabababEcHubobncfbsccbi",
    "IEaMiaHIXEa1UAIoraH0IFIf"]⟩,
  ⟨["gujr", "gujarati"],
   ["IQrbrbOBcbibcbvbgbbbecjbcbccapdclhgHNPqj"]⟩,
  ⟨["gong", "gunjalagondi"],
   ["LxaILmbIK*AfbbbHebbbfhj"]⟩,
  ⟨["guru", "gurmukhi"],
   ["IQrbrbKBcbfebcvbgbbbbbbcabeebccdahdbahqHNTzj"]⟩,
  ⟨["gukh", "gurungkhema"],
   ["IRfaI18AHz"]⟩,
  ⟨["hani", "han"],
   ["LxaRUizbIymMvApbcbmbmbmcagiLBaKupHaHfjaHqHhHyHqplHtaIyykeJaEbMTFIa0VFH4ah0VyRncJj7lbOAe8",
    "JCbmb47orN2EbJToHP2FHaKHzgMDcL0boNPqpZnITcWDHVcK6kfKIF"]⟩,
  ⟨["hang", "hangul"],
   ["KOaNFNWbcejbmocgaMdaHvIDJrEIbE93bC0dQ9dmweHqPYjbOAeHAEdfcfcfcc"]⟩,
  ⟨["rohg", "hanifirohingya"],
   ["HWmaoadaHaaKtaIHXlHhij"]⟩,
  ⟨["hano", "hanunoo"],
   ["L5aw"]⟩,
  ⟨["hebr", "hebrew"],
   ["4hb0iHwiAefH9Pizbebabbbbbj"]⟩,
  ⟨["hira", "hiragana"],
   ["SGbcejbmqfbaebdIvchIAbHZQibOAekaHnbHSJbOEsaDcWLna"]⟩,
  ⟨["zinh", "inherited", "qaai"],
   ["4pacabodgcacpbbbrbebdHVqbKQBE3tHvbabeWmbMcFH3Oqpqn+paHZOcHncwXacrhcgEd4R6sNp"]⟩,
  ⟨["java", "javanese"],
   ["HQSaInbkeb"]⟩,
  ⟨["kthi", "kaithi"],
   ["IRgjPMba+VEj6IgIcka"]⟩,
  ⟨["knda", "kannada"],
   ["IQrbrb4AmbcbwbjbecibcbdhbgbbdcjbcJ+CabbgaxabaHI5Bf"]⟩,
  ⟨["kana", "katakana"],
   ["4faDaRMDcejbmqfbaebIBddIFNqpMqHobIxHY3nbOAHEHSIqdbgbbbaOFcHsaod"]⟩,
  ⟨["kali", "kayahli"],
   ["HQOaHp"]⟩,
  ⟨["khoj", "khojki"],
   ["I3gjHNQaj6UgrbHo"]⟩,
  ⟨["sind", "khudawadi"],
   ["IRebHN2kj6ZwHAfj"]⟩,
  ⟨["latn", "latin"],
   ["IbzgzHpamacafwbEbUadakabcbajabageBobbbapchbbbHgafaemOvbHMkbH9iaJGeHfgHqfdfmbIfHzahNFPpaI",
    "banaqmItaHzbgaBarHiI2xFSxa+NihAJfdIccbbabhvnPoaWbHkbibdZ8wgHGAzgzIHffbHjbiH16fEgf"]⟩,
  ⟨["limb", "limbu"],
   ["IRfaJ8AEbleleadl"]⟩,
  ⟨["lina", "lineara"],
   ["IGOhHmHMmPwjvkh"]⟩,
  ⟨["linb", "linearb"],
   ["IGGalbzbsbbbocnHcJAfceHmdi"]⟩,
  ⟨["lisu"],
   ["1CaqaRPCb9MeHp+1qa"]⟩,
  ⟨["lyci", "lycian"],
   ["OIAaH4XfC"]⟩,
  ⟨["lydi", "lydian"],
   ["LxaRRzaH23ozfa"]⟩,
  ⟨["mahj", "mahajani"],
   ["LxaILmlHN2aj6OwHg"]⟩,
  ⟨["mlym", "malayalam"],
   ["IQrbrb8AmbcbHsbcbfepczJ6AaxaHI5Dc"]⟩,
  ⟨["mand", "mandaic"],
   ["HYaaVFBca"]⟩,
  ⟨["mani", "manichaean"],
   ["HYaaIHJFHgel"]⟩,
  ⟨["gonm", "masaramgondi"],
   ["IRebIK8AgbbbHldabbbiij"]⟩,
  ⟨["mero", "meroitichieroglyphs"],
   ["OIDaH6PcF"]⟩,
  ⟨["modi"],
   ["HQHqj7UgIelj"]⟩,
  ⟨["mong", "mongolian"],
   ["MGazgIyhHkH8eaJ+rbfdH5Yum"]⟩,
  ⟨["mult", "multani"],
   ["IZgjIIGqgbabdbobk"]⟩,
  ⟨["mymr", "myanmar"],
   ["KGaKFHMKoaLrEJbF7Iqt"]⟩,
  ⟨["nand", "nandinagari"],
   ["IQrasb8ajJ*zaiahaHI5vf8RkhcHnck"]⟩,
  ⟨["newa"],
   ["IQrbK8cabbjagababaH94sIBbe"]⟩,
  ⟨["nkoo", "nko"],
   ["HWmaoadaTaHAccH9PEb"]⟩,
  ⟨["onao", "olonal"],
   ["IRebJ3JkHkea"]⟩,
  ⟨["hung", "oldhungarian"],
   ["OIAacaJUtapaH3XEHsnHshf"]⟩,
  ⟨["perm", "oldpermic"],
   ["LxaYiafckaRpaH*2mHk"]⟩,
  ⟨["orkh", "oldturkic"],
   ["OIAaJUvaH3UpIi"]⟩,
  ⟨["ougr", "olduyghur"],
   ["HYaaIHLraHJDz"]⟩,
  ⟨["orya", "oriya"],
   ["IQrbrbSBcbhcbcvbgbbbecicbcchcebbecrKRcaxa"]⟩,
  ⟨["osge", "osage"],
   ["4bacagaImaIGQxHdeHd"]⟩,
  ⟨["phag", "phagspa"],
   ["MGcbbaIHjaJ+sa+HDHx"]⟩,
  ⟨["phlp", "psalterpahlavi"],
   ["HYaaIHPFrhdmg"]⟩,
  ⟨["runr", "runic"],
   ["L1aIy"]⟩,
  ⟨["samr", "samaritan"],
   ["IGaHncoPVsa"]⟩,
  ⟨["shrd", "sharada"],
   ["IQraK8fabacbcajacaHI6cfca6QhIF"]⟩,
  ⟨["shaw", "shavian"],
   ["LxaIG8yHp"]⟩,
  ⟨["sinh", "sinhala"],
   ["IRebHGBcbrdxbibacgdaefbabhgjccJ3DaH9Not"]⟩,
  ⟨["sogd", "sogdian"],
   ["HYaaIINpHj"]⟩,
  ⟨["sunu", "sunuwar"],
   ["4abbajacaCadaIMKoHboj"]⟩,
  ⟨["sylo", "sylotinagri"],
   ["IRebKajHNWqHm"]⟩,
  ⟨["syrc", "syriac"],
   ["4dbcbbaychbbb2AaobcaHaakkAaKpnbHBccOqkLSnaba"]⟩,
  ⟨["tglg", "tagalog"],
   ["L4avjavb"]⟩,
  ⟨["tagb", "tagbanwa"],
   ["L5vbHjmbcbb"]⟩,
  ⟨["tale", "taile"],
   ["4abfbdaJPtjIOgDce"]⟩,
  ⟨["takr", "takri"],
   ["IRebHN2kj7YgHzgj"]⟩,
  ⟨["taml", "tamil"],
   ["IQrbrbWCbbfdcbddbbabbdbdcdleedcbdcagaouKMFaHJGya6WnabaHxbJKdHrna"]⟩,
  ⟨["tang", "tangut"],
   ["R*qpVpaIVVqaFL*xi3FWai"]⟩,
  ⟨["telu", "telugu"],
   ["IQrbrb0AmbcbwbpcibcbdhbbccacdcjhiKIvbbabaxa"]⟩,
  ⟨["thaa", "thaana"],
   ["HWmaobcaIajOwHrH9Yaaka"]⟩,
  ⟨["thai"],
   ["1CaAaHlaHnaI2pHzfB"]⟩,
  ⟨["tibt", "tibetan"],
   ["J4aIhbHdeHgbHdbobgebOHnd"]⟩,
  ⟨["tfng", "tifinagh"],
   ["4cababdzaQWmHxhboa"]⟩,
  ⟨["tirh", "tirhuta"],
   ["IQrbrbK7pamapaHI5Dj7IgIhij"]⟩,
  ⟨["todr", "todhri"],
   ["4bacacajabaIkaIGZbHt"]⟩,
  ⟨["toto"],
   ["1CaJ3+tE"]⟩,
  ⟨["tutg", "tulutigalari"],
   ["JNgjKGcabaHI5BfLBa60ojbacabHfbjbacabdbjbbib"]⟩,
  ⟨["yezi", "yezidi"],
   ["HWmaoadaIajIIGwHjbccb"]⟩,
  ⟨["yiii", "yi"],
   ["SGbbfjchMFa74eHKmdHw20Ae"]⟩]

end PublishGate.Pattern.Unicode
