import RuleTree.Unicode.CodeRanges

/-! The script that each code point belongs to. -/

namespace RuleTree.Unicode

/-- The code points of each script. -/
def scripts : List Table := [
  ⟨["adlm", "adlam"], [
      "125184+75 5+9 5+1"]⟩,
  ⟨["aghb", "caucasianalbanian"], [
      "66864+51 12"]⟩,
  ⟨["ahom"], [
      "71424+26 3+14 5+22"]⟩,
  ⟨["arab", "arabic"], [
      "1536+4 2+5 2+13 2+2 2+31 2+9 12+25 2+107 2+33 81+47 241+30 2+1 6+74 2+28 62033+114 17+362",
      "3+79 3+53 8 33+15 113+4 2+134 3940+30 68+2 56+3 57089+3 2+26 2+1 2 3 2+9 2+3 2 2 7 5 2 2 2+2",
      "2+1 2 3 2 2 2 2 2+1 2 3+3 2+6 2+3 2+3 2 2+9 2+16 6+2 2+4 2+16 53+1"]⟩,
  ⟨["armi", "imperialaramaic"], [
      "67648+21 2+8"]⟩,
  ⟨["armn", "armenian"], [
      "1329+37 3+49 3+2 62852+4"]⟩,
  ⟨["avst", "avestan"], [
      "68352+53 4+6"]⟩,
  ⟨["bali", "balinese"], [
      "6912+76 2+49"]⟩,
  ⟨["bamu", "bamum"], [
      "42656+87 49417+568"]⟩,
  ⟨["bass", "bassavah"], [
      "92880+29 3+5"]⟩,
  ⟨["batk", "batak"], [
      "7104+51 9+3"]⟩,
  ⟨["beng", "bengali"], [
      "2432+3 2+7 3+1 3+21 2+6 2 4+3 3+8 3+1 3+3 9 5+1 2+4 3+24"]⟩,
  ⟨["bhks", "bhaiksuki"], [
      "72704+8 2+44 2+13 11+28"]⟩,
  ⟨["bopo", "bopomofo"], [
      "746+1 11802+42 113+31"]⟩,
  ⟨["brah", "brahmi"], [
      "69632+77 5+35 10"]⟩,
  ⟨["brai", "braille"], [
      "10240+255"]⟩,
  ⟨["bugi", "buginese"], [
      "6656+27 3+1"]⟩,
  ⟨["buhd", "buhid"], [
      "5952+19"]⟩,
  ⟨["cakm", "chakma"], [
      "69888+52 2+17"]⟩,
  ⟨["cans", "canadianaboriginal"], [
      "5120+639 561+69 65979+15"]⟩,
  ⟨["cari", "carian"], [
      "66208+48"]⟩,
  ⟨["cham"], [
      "43520+54 10+13 3+9 3+3"]⟩,
  ⟨["cher", "cherokee"], [
      "5024+85 3+5 38771+79"]⟩,
  ⟨["chrs", "chorasmian"], [
      "69552+27"]⟩,
  ⟨["copt", "coptic", "qaac"], [
      "994+13 10385+115 6+6"]⟩,
  ⟨["cpmn", "cyprominoan"], [
      "77712+98"]⟩,
  ⟨["cprt", "cypriot"], [
      "67584+5 3 2+43 2+1 4 3"]⟩,
  ⟨["cyrl", "cyrillic"], [
      "1024+132 3+168 5969+10 161 77 4200+31 30785+95 22415+1 57857+61 34"]⟩,
  ⟨["deva", "devanagari"], [
      "2304+80 5+14 3+25 40801+31 29185+9"]⟩,
  ⟨["diak", "divesakuru"], [
      "71936+6 3 3+7 2+1 2+29 2+1 3+11 10+9"]⟩,
  ⟨["dogr", "dogra"], [
      "71680+59"]⟩,
  ⟨["dsrt", "deseret"], [
      "66560+79"]⟩,
  ⟨["dupl", "duployan"], [
      "113664+106 6+12 4+8 8+9 3+3"]⟩,
  ⟨["egyp", "egyptianhieroglyphs"], [
      "77824+1109 11+3994"]⟩,
  ⟨["elba", "elbasan"], [
      "66816+39"]⟩,
  ⟨["elym", "elymaic"], [
      "69600+22"]⟩,
  ⟨["ethi", "ethiopic"], [
      "4608+72 2+3 3+6 2 2+3 3+40 2+3 3+32 2+3 3+6 2 2+3 3+14 2+56 2+3 3+66 3+31 4+25 6631+22 10+6",
      "2+6 2+6 2+6 2+6 2+6 2+6 2+6 32035+5 3+5 3+5 10+6 2+6 81074+6 2+3 2+1 2+14"]⟩,
  ⟨["gara", "garay"], [
      "68928+37 4+28 9+1"]⟩,
  ⟨["geor", "georgian"], [
      "4256+37 2 6 3+42 2+3 2961+42 3+2 4161+37 2 6"]⟩,
  ⟨["glag", "glagolitic"], [
      "11264+95 111521+6 2+16 3+6 2+1 2+4"]⟩,
  ⟨["gong", "gunjalagondi"], [
      "73056+5 2+1 2+36 2+1 2+5 8+9"]⟩,
  ⟨["gonm", "masaramgondi"], [
      "72960+6 2+1 2+43 4 2+1 2+8 9+9"]⟩,
  ⟨["goth", "gothic"], [
      "66352+26"]⟩,
  ⟨["gran", "grantha"], [
      "70400+3 2+7 3+1 3+21 2+6 2+1 2+4 3+8 3+1 3+2 3 7 6+6 3+6 4+4"]⟩,
  ⟨["grek", "greek"], [
      "880+3 2+2 3+3 2 5 2 2+2 2 2+19 2+62 15+15 6439+4 51+4 5+4 85 321+21 3+5 3+37 3+5 3+7 2 2 2",
      "2+30 3+52 2+14 2+13 3+5 2+18 3+2 2+8 296 35391 21979+78 18 53344+69"]⟩,
  ⟨["gujr", "gujarati"], [
      "2689+2 2+8 2+2 2+21 2+6 2+1 2+4 3+9 2+2 2+2 3 16+3 3+11 8+6"]⟩,
  ⟨["gukh", "gurungkhema"], [
      "90368+57"]⟩,
  ⟨["guru", "gurmukhi"], [
      "2561+2 2+5 5+1 3+21 2+6 2+1 2+1 2+1 3 2+4 5+1 3+2 4 8+3 2 8+16"]⟩,
  ⟨["hang", "hangul"], [
      "4352+255 7727+1 258+93 114+30 66+30 30434+28 644+11171 13+22 5+48 10149+30 4+5 3+5 3+5 3+2"]⟩,
  ⟨["hani", "han"], [
      "11904+25 2+88 13+213 48 2 26+8 15+3 965+6591 65+20991 22785+365 3+105 29961+1 13+1",
      "36879+42719 33+4153 7+221 3+5761 15+7472 16+621 2467+541 1507+4938 6+4191"]⟩,
  ⟨["hano", "hanunoo"], [
      "5920+20"]⟩,
  ⟨["hatr", "hatran"], [
      "67808+18 2+1 6+4"]⟩,
  ⟨["hebr", "hebrew"], [
      "1425+54 9+26 5+5 62761+25 2+4 2 2+1 2+1 2+9"]⟩,
  ⟨["hira", "hiragana"], [
      "12353+85 7+2 98146+286 19 30+2 16558"]⟩,
  ⟨["hluw", "anatolianhieroglyphs"], [
      "82944+582"]⟩,
  ⟨["hmng", "pahawhhmong"], [
      "92928+69 11+9 2+6 2+20 6+18"]⟩,
  ⟨["hmnp", "nyiakengpuachuehmong"], [
      "123136+44 4+13 3+9 5+1"]⟩,
  ⟨["hung", "oldhungarian"], [
      "68736+50 14+50 8+5"]⟩,
  ⟨["ital", "olditalic"], [
      "66304+35 10+2"]⟩,
  ⟨["java", "javanese"], [
      "43392+77 3+9 5+1"]⟩,
  ⟨["kali", "kayahli"], [
      "43264+45 2"]⟩,
  ⟨["kana", "katakana"], [
      "12449+89 3+2 241+15 209+46 2+87 52239+9 2+44 45139+3 2+6 2+1 2 288+2 51 15+3"]⟩,
  ⟨["kawi"], [
      "73472+16 2+40 4+28"]⟩,
  ⟨["khar", "kharoshthi"], [
      "68096+3 2+1 6+7 2+2 2+28 3+2 5+9 8+8"]⟩,
  ⟨["khmr", "khmer"], [
      "6016+93 3+9 7+9 487+31"]⟩,
  ⟨["khoj", "khojki"], [
      "70144+17 2+46"]⟩,
  ⟨["kits", "khitansmallscript"], [
      "94180 6940+469 42"]⟩,
  ⟨["knda", "kannada"], [
      "3200+12 2+2 2+22 2+9 2+4 3+8 2+2 2+3 8+1 7+1 2+3 3+9 2+2"]⟩,
  ⟨["krai", "kiratrai"], [
      "93504+57"]⟩,
  ⟨["kthi", "kaithi"], [
      "69760+66 11"]⟩,
  ⟨["lana", "taitham"], [
      "6688+62 2+28 3+10 7+9 7+13"]⟩,
  ⟨["laoo", "lao"], [
      "3713+1 2 2+4 2+23 2 2+22 3+4 2 2+6 2+9 3+3"]⟩,
  ⟨["latn", "latin"], [
      "65+25 7+25 48 16 6+22 2+30 2+448 40+4 6684+37 7+48 6+3 6+12 2+69 66+255 370 14 17+12 142+1 7",
      "28 18+40 2776+31 31395+101 4+66 3+1 2 2+7 22+13 817+42 2+8 2+3 20375+6 1051+25 7+25 2086+5",
      "2+41 2+8 55110+30 7+5"]⟩,
  ⟨["lepc", "lepcha"], [
      "7168+55 4+14 4+2"]⟩,
  ⟨["limb", "limbu"], [
      "6400+30 2+11 5+11 5 4+11"]⟩,
  ⟨["lina", "lineara"], [
      "67072+310 10+21 11+7"]⟩,
  ⟨["linb", "linearb"], [
      "65536+11 2+25 2+18 2+1 2+14 3+13 35+122"]⟩,
  ⟨["lisu"], [
      "42192+47 31409"]⟩,
  ⟨["lyci", "lycian"], [
      "66176+28"]⟩,
  ⟨["lydi", "lydian"], [
      "67872+25 6"]⟩,
  ⟨["mahj", "mahajani"], [
      "69968+38"]⟩,
  ⟨["maka", "makasar"], [
      "73440+24"]⟩,
  ⟨["mand", "mandaic"], [
      "2112+27 3"]⟩,
  ⟨["mani", "manichaean"], [
      "68288+38 5+11"]⟩,
  ⟨["marc", "marchen"], [
      "72816+31 3+21 2+13"]⟩,
  ⟨["medf", "medefaidrin"], [
      "93760+90"]⟩,
  ⟨["mend", "mendekikakui"], [
      "124928+196 3+15"]⟩,
  ⟨["merc", "meroiticcursive"], [
      "68000+23 5+19 3+45"]⟩,
  ⟨["mero", "meroitichieroglyphs"], [
      "67968+31"]⟩,
  ⟨["mlym", "malayalam"], [
      "3328+12 2+2 2+50 2+2 2+5 5+15 3+25"]⟩,
  ⟨["modi"], [
      "71168+68 12+9"]⟩,
  ⟨["mong", "mongolian"], [
      "6144+1 3 2+19 7+88 8+42 64950+12"]⟩,
  ⟨["mroo", "mro"], [
      "92736+30 2+9 5+1"]⟩,
  ⟨["mtei", "meeteimayek"], [
      "43744+22 202+45 3+9"]⟩,
  ⟨["mult", "multani"], [
      "70272+6 2 2+3 2+14 2+10"]⟩,
  ⟨["mymr", "myanmar"], [
      "4096+159 39233+30 98+31 27729+19"]⟩,
  ⟨["nagm", "nagmundari"], [
      "124112+41"]⟩,
  ⟨["nand", "nandinagari"], [
      "72096+7 3+45 3+10"]⟩,
  ⟨["narb", "oldnortharabian"], [
      "68224+31"]⟩,
  ⟨["nbat", "nabataean"], [
      "67712+30 9+8"]⟩,
  ⟨["newa"], [
      "70656+91 2+4"]⟩,
  ⟨["nkoo", "nko"], [
      "1984+58 3+2"]⟩,
  ⟨["nshu", "nushu"], [
      "94177 16783+395"]⟩,
  ⟨["ogam", "ogham"], [
      "5760+28"]⟩,
  ⟨["olck", "olchiki"], [
      "7248+47"]⟩,
  ⟨["onao", "olonal"], [
      "124368+42 5"]⟩,
  ⟨["orkh", "oldturkic"], [
      "68608+72"]⟩,
  ⟨["orya", "oriya"], [
      "2817+2 2+7 3+1 3+21 2+6 2+1 2+4 3+8 3+1 3+2 8+2 5+1 2+4 3+17"]⟩,
  ⟨["osge", "osage"], [
      "66736+35 5+35"]⟩,
  ⟨["osma", "osmanya"], [
      "66688+29 3+9"]⟩,
  ⟨["ougr", "olduyghur"], [
      "69488+25"]⟩,
  ⟨["palm", "palmyrene"], [
      "67680+31"]⟩,
  ⟨["pauc", "paucinhau"], [
      "72384+56"]⟩,
  ⟨["perm", "oldpermic"], [
      "66384+42"]⟩,
  ⟨["phag", "phagspa"], [
      "43072+55"]⟩,
  ⟨["phli", "inscriptionalpahlavi"], [
      "68448+18 6+7"]⟩,
  ⟨["phlp", "psalterpahlavi"], [
      "68480+17 8+3 13+6"]⟩,
  ⟨["phnx", "phoenician"], [
      "67840+27 4"]⟩,
  ⟨["plrd", "miao"], [
      "93952+74 5+56 8+16"]⟩,
  ⟨["prti", "inscriptionalparthian"], [
      "68416+21 3+7"]⟩,
  ⟨["rjng", "rejang"], [
      "43312+35 12"]⟩,
  ⟨["rohg", "hanifirohingya"], [
      "68864+39 9+9"]⟩,
  ⟨["runr", "runic"], [
      "5792+74 4+10"]⟩,
  ⟨["samr", "samaritan"], [
      "2048+45 3+14"]⟩,
  ⟨["sarb", "oldsoutharabian"], [
      "68192+31"]⟩,
  ⟨["saur", "saurashtra"], [
      "43136+69 9+11"]⟩,
  ⟨["sgnw", "signwriting"], [
      "120832+651 16+4 2+14"]⟩,
  ⟨["shaw", "shavian"], [
      "66640+47"]⟩,
  ⟨["shrd", "sharada"], [
      "70016+95"]⟩,
  ⟨["sidd", "siddham"], [
      "71040+53 3+37"]⟩,
  ⟨["sind", "khudawadi"], [
      "70320+58 6+9"]⟩,
  ⟨["sinh", "sinhala"], [
      "3457+2 2+17 4+23 2+8 2 3+6 4 5+5 2 2+7 7+9 3+2 66541+19"]⟩,
  ⟨["sogd", "sogdian"], [
      "69424+41"]⟩,
  ⟨["sogo", "oldsogdian"], [
      "69376+39"]⟩,
  ⟨["sora", "sorasompeng"], [
      "69840+24 8+9"]⟩,
  ⟨["soyo", "soyombo"], [
      "72272+82"]⟩,
  ⟨["sund", "sundanese"], [
      "7040+63 257+7"]⟩,
  ⟨["sunu", "sunuwar"], [
      "72640+33 15+9"]⟩,
  ⟨["sylo", "sylotinagri"], [
      "43008+44"]⟩,
  ⟨["syrc", "syriac"], [
      "1792+13 2+59 3+2 273+10"]⟩,
  ⟨["tagb", "tagbanwa"], [
      "5984+12 2+2 2+1"]⟩,
  ⟨["takr", "takri"], [
      "71296+57 7+9"]⟩,
  ⟨["tale", "taile"], [
      "6480+29 3+4"]⟩,
  ⟨["talu", "newtailue"], [
      "6528+43 5+25 7+10 4+1"]⟩,
  ⟨["taml", "tamil"], [
      "2946+1 2+5 4+2 2+3 4+1 2 2+1 4+1 4+2 4+11 5+4 4+2 2+3 3 7 15+20 70598+49 14"]⟩,
  ⟨["tang", "tangut"], [
      "94176 32+6135 9+767 513+8"]⟩,
  ⟨["tavt", "taiviet"], [
      "43648+66 25+4"]⟩,
  ⟨["telu", "telugu"], [
      "3072+12 2+2 2+22 2+15 3+8 2+2 2+3 8+1 2+2 3 3+3 3+9 8+8"]⟩,
  ⟨["tfng", "tifinagh"], [
      "11568+55 8+1 15"]⟩,
  ⟨["tglg", "tagalog"], [
      "5888+21 10"]⟩,
  ⟨["thaa", "thaana"], [
      "1920+49"]⟩,
  ⟨["thai"], [
      "3585+57 6+27"]⟩,
  ⟨["tibt", "tibetan"], [
      "3840+71 2+35 5+38 2+35 2+14 2+6 5+1"]⟩,
  ⟨["tirh", "tirhuta"], [
      "70784+71 9+9"]⟩,
  ⟨["tnsa", "tangsa"], [
      "92784+78 2+9"]⟩,
  ⟨["todr", "todhri"], [
      "67008+51"]⟩,
  ⟨["toto"], [
      "123536+30"]⟩,
  ⟨["tutg", "tulutigalari"], [
      "70528+9 2 3 2+37 2+9 2 3 2+3 2+9 2+1 9+1"]⟩,
  ⟨["ugar", "ugaritic"], [
      "66432+29 2"]⟩,
  ⟨["vaii", "vai"], [
      "42240+299"]⟩,
  ⟨["vith", "vithkuqi"], [
      "66928+10 2+14 2+6 2+1 2+10 2+14 2+6 2+1"]⟩,
  ⟨["wara", "warangciti"], [
      "71840+82 13"]⟩,
  ⟨["wcho", "wancho"], [
      "123584+57 6"]⟩,
  ⟨["xpeo", "oldpersian"], [
      "66464+35 5+13"]⟩,
  ⟨["xsux", "cuneiform"], [
      "73728+921 103+110 2+4 12+195"]⟩,
  ⟨["yezi", "yezidi"], [
      "69248+41 2+2 3+1"]⟩,
  ⟨["yiii", "yi"], [
      "40960+1164 4+54"]⟩,
  ⟨["zanb", "zanabazarsquare"], [
      "72192+71"]⟩,
  ⟨["zinh", "inherited", "qaai"], [
      "768+111 278+1 453+10 27 737+3 4444+30 514+2 2+12 2+6 5 7 4+1 199+63 525+1 195+32 3898+3",
      "108+1 52582+15 17+13 976 227 4187 48069+45 3+22 545+2 18+7 3+6 31+3 798547+239"]⟩,
  ⟨["zyyy", "common"], [
      "0+64 27+5 27+46 2+14 2+4 24 32 450+38 6+4 3+19 117 10 7 2 638 7 15 4 33 157 517 130+1 1242",
      "406+3 291 1520+2 72+1 204+1 2 1230 14 8+3 2+5 2+2 3 774+11 3+86 2+10 4+10 2+14 18+32 64+37",
      "2+2 3+5 2+26 2+16 42+2 5+665 23+10 22+927 257+627 3+31 2+104 513+93 403+20 2 2+24 16+7 5+3",
      "92+1 4 91+1 148+15 33+37 10 49+63 32+80 48 89+167 6593+63 22785+33 103+2 166+9 245 161 396",
      "15+1 20947+1 209+9 23+34 2+18 2+3 148 2+31 27+5 27+10 11 46+1 65+6 2+6 11+4 259+2 5+44 4+8",
      "81+12 52+44 229+26 47525+3 3933+249 7+435 157+115 61+245 11+38 3+61 4+16 9+1 8+29 5+60",
      "214+19 13+19 13+86 10+24 136+84 2+70 2+1 3 3+1 3+3 2+11 2 2+6 2+64 2+3 3+7 2+6 2+27 2+3 2+4",
      "2 4+6 2+339 3+291 3+49 5234+67 77+60 707+43 5+99 13+14 3+14 2+14 2+36 11+173 57+25 2+1 14+43",
      "5+8 8+1 15+5 155+983 5+16 4+12 4+118 5+94 7+11 5 16+11 5+55 9+9 7+39 9+29 3+11 5+1 63+339",
      "13+13 3+12 4+9 6+55 8+14 3+10 7+8 8+146 2+101 787464 31+95"]⟩]

end RuleTree.Unicode
