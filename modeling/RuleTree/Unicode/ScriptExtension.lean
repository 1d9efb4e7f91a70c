import RuleTree.Unicode.CodeRanges

/-! The code points used with each script, those shared between scripts included. -/

namespace RuleTree.Unicode

/-- The code points used with each script. -/
def scriptExtensions : List Table := [
  ⟨["adlm", "adlam"], [
      "1567 33 123584+75 5+9 5+1"]⟩,
  ⟨["aghb", "caucasianalbanian"], [
      "66864+51 12"]⟩,
  ⟨["ahom"], [
      "71424+26 3+14 5+22"]⟩,
  ⟨["arab", "arabic"], [
      "1536+4 2+214 2+33 81+47 241+30 2+1 6+74 2+28 62033+114 17+444 3+53 8 33+15 113+4 2+134",
      "996+27 2917+30 68+2 56+3 57089+3 2+26 2+1 2 3 2+9 2+3 2 2 7 5 2 2 2+2 2+1 2 3 2 2 2 2 2+1 2",
      "3+3 2+6 2+3 2+3 2 2+9 2+16 6+2 2+4 2+16 53+1"]⟩,
  ⟨["armi", "imperialaramaic"], [
      "67648+21 2+8"]⟩,
  ⟨["armn", "armenian"], [
      "1329+37 3+49 3+2 62852+4"]⟩,
  ⟨["avst", "avestan"], [
      "68352+53 4+6"]⟩,
  ⟨["bali", "balinese"], [
      "6912+76 2+49"]⟩,
  ⟨["bamu", "bamum"], [
      "42656+87 49417+568"]⟩,
  ⟨["bass", "bassavah"], [
      "92880+29 3+5"]⟩,
  ⟨["batk", "batak"], [
      "7104+51 9+3"]⟩,
  ⟨["beng", "bengali"], [
      "2385+1 18+1 27+3 2+7 3+1 3+21 2+6 2 4+3 3+8 3+1 3+3 9 5+1 2+4 3+24 4818 2 3+1 2 9 9 3 5 3+2",
      "35834"]⟩,
  ⟨["bhks", "bhaiksuki"], [
      "72704+8 2+44 2+13 11+28"]⟩,
  ⟨["bopo", "bopomofo"], [
      "746+1 11542+2 5+9 2+12 11+3 3 7 196 10+42 113+31 52358+1 283+4"]⟩,
  ⟨["brah", "brahmi"], [
      "69632+77 5+35 10"]⟩,
  ⟨["brai", "braille"], [
      "10240+255"]⟩,
  ⟨["bugi", "buginese"], [
      "6656+27 3+1 36784"]⟩,
  ⟨["buhd", "buhid"], [
      "5941+1 10+19"]⟩,
  ⟨["cakm", "chakma"], [
      "2534+9 1617+9 65719+52 2+17"]⟩,
  ⟨["cans", "canadianaboriginal"], [
      "5120+639 561+69 65979+15"]⟩,
  ⟨["cari", "carian"], [
      "66208+48"]⟩,
  ⟨["cham"], [
      "43520+54 10+13 3+9 3+3"]⟩,
  ⟨["cher", "cherokee"], [
      "5024+85 3+5 38771+79"]⟩,
  ⟨["chrs", "chorasmian"], [
      "69552+27"]⟩,
  ⟨["copt", "coptic", "qaac"], [
      "994+13 10385+115 6+6 54753+27"]⟩,
  ⟨["cpmn", "cyprominoan"], [
      "65792+1 11919+98"]⟩,
  ⟨["cprt", "cypriot"], [
      "65792+2 5+44 4+8 1729+5 3 2+43 2+1 4 3"]⟩,
  ⟨["cyrl", "cyrillic"], [
      "1024+303 5969+10 161 77 128 4072+31 68 30717+95 22415+1 57857+61 34"]⟩,
  ⟨["deva", "devanagari"], [
      "2304+82 3+42 4945+38 2+1 1015 34624+9 167+31 29185+9"]⟩,
  ⟨["diak", "divesakuru"], [
      "71936+6 3 3+7 2+1 2+29 2+1 3+11 10+9"]⟩,
  ⟨["dogr", "dogra"], [
      "2404+11 40641+9 28615+59"]⟩,
  ⟨["dsrt", "deseret"], [
      "66560+79"]⟩,
  ⟨["dupl", "duployan"], [
      "113664+106 6+12 4+8 8+9 3+7"]⟩,
  ⟨["egyp", "egyptianhieroglyphs"], [
      "77824+1109 11+3994"]⟩,
  ⟨["elba", "elbasan"], [
      "66816+39"]⟩,
  ⟨["elym", "elymaic"], [
      "69600+22"]⟩,
  ⟨["ethi", "ethiopic"], [
      "4608+72 2+3 3+6 2 2+3 3+40 2+3 3+32 2+3 3+6 2 2+3 3+14 2+56 2+3 3+66 3+31 4+25 6631+22 10+6",
      "2+6 2+6 2+6 2+6 2+6 2+6 2+6 32035+5 3+5 3+5 10+6 2+6 81074+6 2+3 2+1 2+14"]⟩,
  ⟨["gara", "garay"], [
      "68928+37 4+28 9+1"]⟩,
  ⟨["geor", "georgian"], [
      "4256+37 2 6 3+47 2961+42 3+2 4161+37 2 6"]⟩,
  ⟨["glag", "glagolitic"], [
      "1156 3 10105+95 484 30764 80273+6 2+16 3+6 2+1 2+4"]⟩,
  ⟨["gong", "gunjalagondi"], [
      "2404+1 70651+5 2+1 2+36 2+1 2+5 8+9"]⟩,
  ⟨["gonm", "masaramgondi"], [
      "2404+1 70555+6 2+1 2+43 4 2+1 2+8 9+9"]⟩,
  ⟨["goth", "gothic"], [
      "66352+26"]⟩,
  ⟨["gran", "grantha"], [
      "2385+1 18+1 641+13 4317 2+1 31+2 4+1 1015 61968+3 2+7 3+1 3+21 2+6 2+1 2+4 2+9 3+1 3+2 3 7",
      "6+6 3+6 4+4 3164+1 2"]⟩,
  ⟨["grek", "greek"], [
      "834 3 43+3 2+2 3+3 2 5 2 2+2 2 2+19 2+62 15+15 6439+4 51+4 5+4 85+2 319+21 3+5 3+37 3+5 3+7",
      "2 2 2 2+30 3+52 2+14 2+13 3+5 2+18 3+2 2+8 296 35391 21979+78 18 53344+69"]⟩,
  ⟨["gujr", "gujarati"], [
      "2385+1 18+1 284+2 2+8 2+2 2+21 2+6 2+1 2+4 3+9 2+2 2+2 3 16+3 3+11 8+6 40241+9"]⟩,
  ⟨["gukh", "gurungkhema"], [
      "90368+57"]⟩,
  ⟨["guru", "gurmukhi"], [
      "2385+1 18+1 156+2 2+5 5+1 3+21 2+6 2+1 2+1 2+1 3 2+4 5+1 3+2 4 8+3 2 8+16 40378+9"]⟩,
  ⟨["hang", "hangul"], [
      "4352+255 7682+2 5+9 2+12 15+2 7 196 54+93 114+30 66+30 30434+28 644+11171 13+22 5+48 9802+1",
      "283+4 59+30 4+5 3+5 3+5 3+2"]⟩,
  ⟨["hani", "han"], [
      "11904+25 2+88 13+213 44+2 2+12 2+12 2+12 3 7+8 188 149+15 33+35 61+39 57+48 16+11 52 89+24",
      "11+4 97+30 2+6591 65+20991 1793+7 20985+365 3+105 876+1 283+4 28797+1 13+1 25455+17 7903+1",
      "3503+42719 33+4153 7+221 3+5761 15+7472 16+621 2467+541 1507+4938 6+4191"]⟩,
  ⟨["hano", "hanunoo"], [
      "5920+22"]⟩,
  ⟨["hatr", "hatran"], [
      "67808+18 2+1 6+4"]⟩,
  ⟨["hebr", "hebrew"], [
      "1425+54 9+26 5+5 62761+25 2+4 2 2+1 2+1 2+9"]⟩,
  ⟨["hira", "hiragana"], [
      "12289+2 5+9 2+12 17+5 2 5+1 4+85 3+7 91+1 52553+1 283+4 11 46+1 45154+286 19 30+2 16558"]⟩,
  ⟨["hluw", "anatolianhieroglyphs"], [
      "82944+582"]⟩,
  ⟨["hmng", "pahawhhmong"], [
      "92928+69 11+9 2+6 2+20 6+18"]⟩,
  ⟨["hmnp", "nyiakengpuachuehmong"], [
      "123136+44 4+13 3+9 5+1"]⟩,
  ⟨["hung", "oldhungarian"], [
      "68736+50 14+50 8+5"]⟩,
  ⟨["ital", "olditalic"], [
      "66304+35 10+2"]⟩,
  ⟨["java", "javanese"], [
      "43392+77 2+10 5+1"]⟩,
  ⟨["kali", "kayahli"], [
      "43264+47"]⟩,
  ⟨["kana", "katakana"], [
      "12289+2 5+9 2+12 17+5 2 5+1 92+3 4+95 241+15 209+46 2+87 51950+1 283+62 45137+3 2+6 2+1 2",
      "288+2 51 15+3"]⟩,
  ⟨["kawi"], [
      "73472+16 2+40 4+28"]⟩,
  ⟨["khar", "kharoshthi"], [
      "68096+3 2+1 6+7 2+2 2+28 3+2 5+9 8+8"]⟩,
  ⟨["khmr", "khmer"], [
      "6016+93 3+9 7+9 487+31"]⟩,
  ⟨["khoj", "khojki"], [
      "2790+9 40257+9 27079+17 2+46"]⟩,
  ⟨["kits", "khitansmallscript"], [
      "94180 6940+469 42"]⟩,
  ⟨["knda", "kannada"], [
      "2385+1 18+1 795+12 2+2 2+22 2+9 2+4 3+8 2+2 2+3 8+1 7+1 2+3 3+9 2+2 4061 2 8 24 2 35644+5"]⟩,
  ⟨["krai", "kiratrai"], [
      "93504+57"]⟩,
  ⟨["kthi", "kaithi"], [
      "2406+9 40641+9 26695+66 11"]⟩,
  ⟨["lana", "taitham"], [
      "6688+62 2+28 3+10 7+9 7+13"]⟩,
  ⟨["laoo", "lao"], [
      "3713+1 2 2+4 2+23 2 2+22 3+4 2 2+6 2+9 3+3"]⟩,
  ⟨["latn", "latin"], [
      "65+25 7+25 48 16 6+22 2+30 2+448 40+4 127+12 278+1 1227+1 1961 3077+37 7+48 6+3 6+12 2+69",
      "66+255 304 66 14 17+12 84 58+1 7 28 18+40 2776+31 31361+7 27+101 4+66 3+1 2 2+7 22+13 303",
      "514+42 2+8 2+3 20375+6 1051+25 7+25 2086+5 2+41 2+8 55110+30 7+5"]⟩,
  ⟨["lepc", "lepcha"], [
      "7168+55 4+14 4+2"]⟩,
  ⟨["limb", "limbu"], [
      "2405 3995+30 2+11 5+11 5 4+11"]⟩,
  ⟨["lina", "lineara"], [
      "65799+44 1229+310 10+21 11+7"]⟩,
  ⟨["linb", "linearb"], [
      "65536+11 2+25 2+18 2+1 2+14 3+13 35+122 6+2 5+44 4+8"]⟩,
  ⟨["lisu"], [
      "42192+47 31409"]⟩,
  ⟨["lyci", "lycian"], [
      "66176+28"]⟩,
  ⟨["lydi", "lydian"], [
      "67872+25 6"]⟩,
  ⟨["mahj", "mahajani"], [
      "2404+11 40641+9 26903+38"]⟩,
  ⟨["maka", "makasar"], [
      "73440+24"]⟩,
  ⟨["mand", "mandaic"], [
      "1600 512+27 3"]⟩,
  ⟨["mani", "manichaean"], [
      "1600 66688+38 5+11"]⟩,
  ⟨["marc", "marchen"], [
      "72816+31 3+21 2+13"]⟩,
  ⟨["medf", "medefaidrin"], [
      "93760+90"]⟩,
  ⟨["mend", "mendekikakui"], [
      "124928+196 3+15"]⟩,
  ⟨["merc", "meroiticcursive"], [
      "68000+23 5+19 3+45"]⟩,
  ⟨["mero", "meroitichieroglyphs"], [
      "67968+31"]⟩,
  ⟨["mlym", "malayalam"], [
      "2385+1 18+1 923+12 2+2 2+50 2+2 2+5 5+15 3+25 3931 35670+2"]⟩,
  ⟨["modi"], [
      "43056+9 28103+68 12+9"]⟩,
  ⟨["mong", "mongolian"], [
      "6144+25 7+88 8+42 1925 63025+12"]⟩,
  ⟨["mroo", "mro"], [
      "92736+30 2+9 5+1"]⟩,
  ⟨["mtei", "meeteimayek"], [
      "43744+22 202+45 3+9"]⟩,
  ⟨["mult", "multani"], [
      "2662+9 67601+6 2 2+3 2+14 2+10"]⟩,
  ⟨["mymr", "myanmar"], [
      "4096+159 39055 178+30 98+31 27729+19"]⟩,
  ⟨["nagm", "nagmundari"], [
      "124112+41"]⟩,
  ⟨["nand", "nandinagari"], [
      "2404+1 897+9 4090 9 8 35638+5 29035+7 3+45 3+10"]⟩,
  ⟨["narb", "oldnortharabian"], [
      "68224+31"]⟩,
  ⟨["nbat", "nabataean"], [
      "67712+30 9+8"]⟩,
  ⟨["newa"], [
      "70656+91 2+4"]⟩,
  ⟨["nkoo", "nko"], [
      "1548 15 4 417+58 3+2 62783+1"]⟩,
  ⟨["nshu", "nushu"], [
      "94177 16783+395"]⟩,
  ⟨["ogam", "ogham"], [
      "5760+28"]⟩,
  ⟨["olck", "olchiki"], [
      "7248+47"]⟩,
  ⟨["onao", "olonal"], [
      "124368+42 5"]⟩,
  ⟨["orkh", "oldturkic"], [
      "68608+72"]⟩,
  ⟨["orya", "oriya"], [
      "2385+1 18+1 412+2 2+7 3+1 3+21 2+6 2+1 2+4 3+8 3+1 3+2 8+2 5+1 2+4 3+17 4451 24"]⟩,
  ⟨["osge", "osage"], [
      "66736+35 5+35"]⟩,
  ⟨["osma", "osmanya"], [
      "66688+29 3+9"]⟩,
  ⟨["ougr", "olduyghur"], [
      "1600 66738 1150+25"]⟩,
  ⟨["palm", "palmyrene"], [
      "67680+31"]⟩,
  ⟨["pauc", "paucinhau"], [
      "72384+56"]⟩,
  ⟨["perm", "oldpermic"], [
      "1155 65229+42"]⟩,
  ⟨["phag", "phagspa"], [
      "6146+1 2 36923+55"]⟩,
  ⟨["phli", "inscriptionalpahlavi"], [
      "68448+18 6+7"]⟩,
  ⟨["phlp", "psalterpahlavi"], [
      "1600 66880+17 8+3 13+6"]⟩,
  ⟨["phnx", "phoenician"], [
      "67840+27 4"]⟩,
  ⟨["plrd", "miao"], [
      "93952+74 5+56 8+16"]⟩,
  ⟨["prti", "inscriptionalparthian"], [
      "68416+21 3+7"]⟩,
  ⟨["rjng", "rejang"], [
      "43312+35 12"]⟩,
  ⟨["rohg", "hanifirohingya"], [
      "1548 15 4 33 148 67116+39 9+9"]⟩,
  ⟨["runr", "runic"], [
      "5792+74 4+10"]⟩,
  ⟨["samr", "samaritan"], [
      "2048+45 3+14"]⟩,
  ⟨["sarb", "oldsoutharabian"], [
      "68192+31"]⟩,
  ⟨["saur", "saurashtra"], [
      "43136+69 9+11"]⟩,
  ⟨["sgnw", "signwriting"], [
      "120832+651 16+4 2+14"]⟩,
  ⟨["shaw", "shavian"], [
      "66640+47"]⟩,
  ⟨["shrd", "sharada"], [
      "2385 4998 2 3+1 3 62624+95"]⟩,
  ⟨["sidd", "siddham"], [
      "71040+53 3+37"]⟩,
  ⟨["sind", "khudawadi"], [
      "2404+1 40651+9 27255+58 6+9"]⟩,
  ⟨["sinh", "sinhala"], [
      "2404+1 1052+2 2+17 4+23 2+8 2 3+6 4 5+5 2 2+7 7+9 3+2 66541+19"]⟩,
  ⟨["sogd", "sogdian"], [
      "1600 67824+41"]⟩,
  ⟨["sogo", "oldsogdian"], [
      "69376+39"]⟩,
  ⟨["sora", "sorasompeng"], [
      "69840+24 8+9"]⟩,
  ⟨["soyo", "soyombo"], [
      "72272+82"]⟩,
  ⟨["sund", "sundanese"], [
      "7040+63 257+7"]⟩,
  ⟨["sunu", "sunuwar"], [
      "72640+33 15+9"]⟩,
  ⟨["sylo", "sylotinagri"], [
      "2404+1 129+9 40465+44"]⟩,
  ⟨["syrc", "syriac"], [
      "1548 15+1 3 33 11+10 27 144+13 2+59 3+2 273+10 5518 2"]⟩,
  ⟨["tagb", "tagbanwa"], [
      "5941+1 42+12 2+2 2+1"]⟩,
  ⟨["takr", "takri"], [
      "2404+1 40651+9 28231+57 7+9"]⟩,
  ⟨["tale", "taile"], [
      "4160+9 2311+29 3+4"]⟩,
  ⟨["talu", "newtailue"], [
      "6528+43 5+25 7+10 4+1"]⟩,
  ⟨["taml", "tamil"], [
      "2385+1 18+1 541+1 2+5 4+2 2+3 4+1 2 2+1 4+1 4+2 4+11 5+4 4+2 2+3 3 7 15+20 4320 35865 27150",
      "2 56+1 3204+49 14"]⟩,
  ⟨["tang", "tangut"], [
      "94176 32+6135 9+767 513+8"]⟩,
  ⟨["tavt", "taiviet"], [
      "43648+66 25+4"]⟩,
  ⟨["telu", "telugu"], [
      "2385+1 18+1 667+12 2+2 2+22 2+15 3+8 2+2 2+3 8+1 2+2 3 3+3 3+9 8+8 4187 24"]⟩,
  ⟨["tfng", "tifinagh"], [
      "11568+55 8+1 15"]⟩,
  ⟨["tglg", "tagalog"], [
      "5888+21 10 22+1"]⟩,
  ⟨["thaa", "thaana"], [
      "1548 15+1 3 65+9 279+49 63041 11"]⟩,
  ⟨["thai"], [
      "3585+57 6+27"]⟩,
  ⟨["tibt", "tibetan"], [
      "3840+71 2+35 5+38 2+35 2+14 2+6 5+1"]⟩,
  ⟨["tirh", "tirhuta"], [
      "2385+1 18+1 5005 35646+9 27719+71 9+9"]⟩,
  ⟨["tnsa", "tangsa"], [
      "92784+78 2+9"]⟩,
  ⟨["todr", "todhri"], [
      "67008+51"]⟩,
  ⟨["toto"], [
      "123536+30"]⟩,
  ⟨["tutg", "tulutigalari"], [
      "70528+9 2 3 2+37 2+9 2 3 2+3 2+9 2+1 9+1"]⟩,
  ⟨["ugar", "ugaritic"], [
      "66432+29 2"]⟩,
  ⟨["vaii", "vai"], [
      "42240+299"]⟩,
  ⟨["vith", "vithkuqi"], [
      "66928+10 2+14 2+6 2+1 2+10 2+14 2+6 2+1"]⟩,
  ⟨["wara", "warangciti"], [
      "71840+82 13"]⟩,
  ⟨["wcho", "wancho"], [
      "123584+57 6"]⟩,
  ⟨["xpeo", "oldpersian"], [
      "66464+35 5+13"]⟩,
  ⟨["xsux", "cuneiform"], [
      "73728+921 103+110 2+4 12+195"]⟩,
  ⟨["yezi", "yezidi"], [
      "1548 15 4 65+9 67607+41 2+2 3+1"]⟩,
  ⟨["yiii", "yi"], [
      "12289+1 6+9 3+7 224 28421+1164 4+54 23195+4"]⟩,
  ⟨["zanb", "zanabazarsquare"], [
      "72192+71"]⟩,
  ⟨["zinh", "inherited", "qaai"], [
      "768+65 2+1 2+28 1521+1 4444+30 756+53 2 2+4 525+1 195+31 56593+15 17+13 976 52483+45 3+22",
      "545+2 18+7 3+6 31+3 798547+239"]⟩,
  ⟨["zyyy", "common"], [
      "0+64 27+5 27+46 2+14 2+4 24 32 450+38 6+4 3+19 117 10 7 2 638 216 517 1373 406+3 1811+2",
      "2323+11 3+32 2+52 2+10 4+10 2+14 18+32 64+37 2+2 3+5 2+26 2+16 42+2 5+665 23+10 22+927",
      "257+627 3+31 2+104 513+66 2+25 403+16 4 14 14 22 430+1 10 89+23 32 50+14 13+3 162+9 6+95 32",
      "6593+63 22793+25 103+2 977 15+1 21157+9 23+20 3+11 2+18 2+3 148 2+31 27+5 27+5 128+6 2+6",
      "11+4 403+12 52+44 51716+249 7+435 157+115 61+245 11+38 3+61 4+16 9+1 8+29 5+60 214+19 13+19",
      "13+86 28+6 136+84 2+70 2+1 3 3+1 3+3 2+11 2 2+6 2+64 2+3 3+7 2+6 2+27 2+3 2+4 2 4+6 2+339",
      "3+291 3+49 5234+67 77+60 707+43 5+99 13+14 3+14 2+14 2+36 11+173 57+25 2+1 14+43 5+8 24+5",
      "155+983 5+16 4+12 4+118 5+94 7+11 5 16+11 5+55 9+9 7+39 9+29 3+11 5+1 63+339 13+13 3+12 4+9",
      "6+55 8+14 3+10 7+8 8+146 2+101 787464 31+95"]⟩]

end RuleTree.Unicode
