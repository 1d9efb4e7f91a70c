import RuleTree.Unicode.CodeRanges

/-! The version of the character set that assigned each code point. -/

namespace RuleTree.Unicode

/-- The code points that each version assigned, earliest version first. -/
def ages : List Table := [
  ⟨["1.1", "v11"], [
      "0+501 5+29 57+88 8+46 2+9 23+69 27+1 19+1 5 4 6+6 2 2+19 2+43 2+6 4 2 2 2 2+17 14+11 2+65",
      "2+11 2+40 10+52 3+1 3+1 4+27 3+7 3+1 56+37 3+6 2+38 2 39+9 2+8 13+26 6+4 24 15 4 2+25 6+18",
      "14+13 3+71 3+4 2+14 2+29 3+9 520+2 2+52 3+17 3+4 4+24 17+2 2+7 3+1 3+21 2+6 2 4+3 3 2+6 3+1",
      "3+2 10 5+1 2+4 3+20 8 3+5 5+1 3+21 2+6 2+1 2+1 2+1 3 2+4 5+1 3+2 12+3 2 8+14 13+2 2+6 2 2+2",
      "2+21 2+6 2+1 2+4 3+9 2+2 2+2 3 16 6+9 18+2 2+7 3+1 3+21 2+6 2+1 3+3 3+7 4+1 3+2 9+1 5+1 2+2",
      "5+10 18+1 2+5 4+2 2+3 4+1 2 2+1 4+1 4+2 4+7 2+2 5+4 4+2 2+3 10 16+11 15+2 2+7 2+2 2+22 2+9",
      "2+4 5+6 2+2 2+3 8+1 10+1 5+9 19+1 2+7 2+2 2+22 2+9 2+4 5+6 2+2 2+3 8+1 8 2+1 5+9 19+1 2+7",
      "2+2 2+22 2+15 5+5 3+2 2+3 10 9+1 5+9 146+57 5+28 38+1 2 3+1 2 3 7+3 2+6 2+2 2 2 3+1 2+12 2+2",
      "3+4 2 2+5 3+9 3+1 451+37 11+38 5 5+89 6+67 6+81 3079+154 6+89 7+21 3+5 3+37 3+5 3+7 2 2 2",
      "2+30 3+52 2+14 2+13 3+5 2+18 3+2 2+8 2+46 2+22 36+6 4+26 18+10 38+17 31+56 27+47 14+90",
      "22+241 15 2+120 134+36 28+10 22+138 22+149 11+79 17+19 7+85 146+3 2+3 3+27 2+34 2 2+3 4 2+6",
      "3+6 15+30 4+23 2+13 2114+55 8 2+83 5+5 3+93 7+39 5+93 2+15 97+28 4+35 29+27 4+49 16+11 5+46",
      "2+118 5+98 3+30 6658+20901 16475+6701 211+6 13+4 7+24 2+4 2 2+1 2+1 2+107 34+364 17+63 3+53",
      "41+11 37+3 13+20 5+9 2+18 2+3 5+2 2 2+134 3 2+93 3+93 4+5 3+5 3+5 3+2 4+6 2+6 15+2"]⟩,
  ⟨["2.0", "v20"], [
      "1425+16 2+12 21 2364+71 2+32 8+26 5+5 2 2+20 4+6 2 3810 528 35669+11171 93+2047 73727+1",
      "65535+1 65535+1 65535+1 65535+1 65535+1 65535+1 65535+1 65535+1 65535+1 65535+1 65535+1",
      "65535+1 65535+131073"]⟩,
  ⟨["2.1", "v21"], [
      "8364 57168"]⟩,
  ⟨["3.0", "v30"], [
      "502+3 31+7 3+17 118+4 50 11+4 88+8 20 117 4 2 2 2 31 13 67 13 43+1 3+3 93+1 157 201+2 99+1 6",
      "16 43+4 2+13 2+29 4+26 54+48 1490+1 2+17 4+23 2+8 2 3+6 4 5+5 2 2+7 19+2 374 44 24+2 8 2+2",
      "2+14 3 49+33 2+4 2+1 2+6 4+3 7+25 423+6 2+62 2 2+3 3+6 2 2+3 3+38 2 2+3 3+30 2 2+3 3+6 2 2+3",
      "3+6 2+6 2+22 2+30 2 2+3 3+6 2+38 2+18 7+27 36+84 13+629 10+28 4+80 144+92 4+9 23+14 2+9 7+87",
      "9+41 1926 25+5 96+2 51+1 86+1 73 104+8 270 122 2+29 139+1 458+7 34 87+1 399+255 1409+25 2+88",
      "13+213 27+11 61+2 4 354+23 585+6581 21067+1164 4+17 3+15 2+11 2+2 2 22103 1244+2"]⟩,
  ⟨["3.1", "v31"], [
      "1012+1 63963+31 1297+30 2+3 13+26 182+37 3+37 52147+245 11+38 4+179 547+84 2+70 2+1 3 3+1",
      "3+3 2+11 2 2+3 2+1 2+64 2+3 3+7 2+6 2+27 2+3 2+4 2 4+6 2+337 5+289 5+49 10241+42710",
      "20778+541 722404 31+95"]⟩,
  ⟨["3.2", "v32"], [
      "544 303 20+12 105+1 29 148+1 58+1 3+1 3+1 50+15 351+1 322 2374+1 1544+12 2+6 12+22 10+19",
      "13+12 2+2 2+1 2260 7+4 5 8+4 14 63+1 51+6 83+14 169+11 243+13 125 31+51 285+19 152+9 89+7",
      "23+1 91+11 3+9 223+13 91+27 5+15 257+511 1340+2 88+1 9+1 95 241+15 82+14 82+14 29155+1 17 13",
      "4 21867+58 914 4+15 54+1 45 236+1"]⟩,
  ⟨["4.0", "v40"], [
      "545 19+2 120+1 64+16 81+7 6+2 152+4 517+3 10+8 65+2 150+1 16 46+2 30+2 437 185 68 2 137 85+2",
      "14 68 60 130+7 194+1 2848 19+9 263+28 4+11 5+11 5 4+41 3+4 108+31 769+107 744+1 231 660+1",
      "303 277+1 117+7 15+1 1119+13 1808+1 50 44+1 79+3 168+3 100+1 32 6593+63 45054 74+1 440+11",
      "2+25 2+18 2+1 2+14 3+13 35+122 6+2 5+44 4+8 577+29 2 135+1 39+79 3+9 855+5 3 2+43 2+1 4 3",
      "51905+86 363 797759+239"]⟩,
  ⟨["4.1", "v41"], [
      "567+10 279+4 160+3 247+1 171 35+2 68 19 59+5 242+29 528 81 488 48 1002+1 296+1 2 267 64 64",
      "40 32 32 32 16 40 24+1 32+25 1511+41 7+25 7+9 5+1 33+27 3+1 845+87 658+1 2+6 50+4 30+3 54 81",
      "16 645+10 573 102+1 19+10 6+15 271+6 840+5 237+46 2+46 34+106 15+44 11+53 10 17+22 10+6 2+6",
      "2+6 2+6 2+6 2+6 2+6 2+6 34+23 5+1 931+15 175 27944+21 1861+22 234+43 21061+105 823+9 807+74",
      "534+35 5+13 1579+3 2+1 6+7 2+2 2+26 5+2 5+8 9+8 51112+69 1119+1"]⟩,
  ⟨["5.0", "v50"], [
      "578+13 300+2 338 43+5 17+3 167 518+58 385+1 2+1 867+1 14+1 3598+75 5+44 584+6 52+1 749+3",
      "94+1 54 600+11 715 277+3 842+6 6+3 317+12 8+3 31392+3 6+1 287+55 24713+25 6 5857+878 146+98",
      "14+3 44781+17 1113+1"]⟩,
  ⟨["5.1", "v51"], [
      "880+3 3+1 88 184 141+15 227+4 12+4 33+4 303+17 498+1 223 36 207 30+1 109 109 27+1 9+1 21+7",
      "190 7 30+1 13+5 4+6 492+1 98 4+2 78 6 3 8+2 5+5 27+63 5+1 2059 726+42 4+11 71+55 4+14 4+50",
      "332+27 182+3 91+5 357 140 95 54+3 1301 22+9 4+3 265 32+3 812+4 5+40 4+4 281+2 2+2 5+5 355+31",
      "25+3 3+18 765 163+19 28121+7 1341+299 21+31 3+17 9+27 132+4 3+106 111+4 129+68 10+11 39+83",
      "12 161+54 10+13 3+9 3+3 21445+2 874+11 53+45 131+28 4+48 1616+25 6 51178 7895+43 5+99"]⟩,
  ⟨["5.2", "v52"], [
      "1316+1 731+45 3+14 194 78 7 36+1 129 1498+3 194+3 189+4 69+4 83+5 513 631+8 561+69 181+1 47",
      "70+62 2+28 3+10 7+9 7+13 547+34 267 697+2 152+2 55 607 694+1 30+2 5+9 2+18 2 5+23 88 1022+4",
      "279 14+1 108+6 320 1043+11 28021+7 1285+47 417+87 313+9 167+27 101+28 4+77 2+10 5+1 129+27",
      "5+66 25+4 225+45 3+9 11191+22 5+48 8816+2 3539+21 2+8 187+1 325+31 129+53 4+28 3+26 6+7",
      "129+72 536+30 514+65 7999+1070 48338+10 6+30 3 12 2 3 4 4+4 9 8 26 2+1 3 11+3 3 112 16+33",
      "15+8 46264+4148"]⟩,
  ⟨["6.0", "v60"], [
      "1318+1 249 63 481+27 3 220+1 20 7+1 28+4 507+5 434 17 20 574+3 74+1 899+1 2146+51 9+3 509",
      "665+7 29 816+10 731 20 2+3 30 5+1 29 36 2 5+2 10+1 53+2 25 15 15+1 1441 15 1081+2 29862+1",
      "300+1 2+1 15+9 81 775+5 3+5 3+5 10+6 2+6 20612+15 5183+77 5+29 22417+568 17864+1 16543+14",
      "3+13 3+14 2+14 81 2+10 2 2+1 2+2 2+2 6+7 2+6 2+9 7+8 2 3+1 2+9 5+1 2+9 76+25 2+1 48+8 22+1",
      "175+32 16+5 2+69 4+19 13+36 2+4 22+16 16+62 2 2+181 2+3 4+61 19+23 148+4 2+15 2+2 2 2 2 2+2",
      "2+5 3+3 2 3+3 2+11 5+10 49+69 59+115 49101+221"]⟩,
  ⟨["6.1", "v61"], [
      "1423 117 668 2+10 56+26 498 1006+1 488 6 48+2 2732+2 13+5 257+7 44+3 2773 2 1317+1 52 6 57+1",
      "203+9 29073 1704+7 36 243+1 23 78+1 743+22 20280+1 3921+55 7+1 1809+24 8+9 7+52 2+13 61+72",
      "8+9 1191+55 9+9 22583+68 12+46 17+16 32353+3 2+26 2+1 2 3 2+9 2+3 2 2 7 5 2 2 2+2 2+1 2 3 2",
      "2 2 2 2+1 2 3+3 2+6 2+3 2+3 2 2+9 2+16 6+2 2+4 2+16 53+1 633+1 981+3 189 17 4 2 2 2 4 7+1 5",
      "2+1 5"]⟩,
  ⟨["6.2", "v62"], [
      "8378"]⟩,
  ⟨["6.3", "v63"], [
      "1564 6730+3"]⟩,
  ⟨["7.0", "v70"], [
      "895 425+7 94+1 119 668 12+5 77 121 8 640 52 77 128 229+9 2306+7 549+1 402+14 570+1 238+14",
      "710+2 823+6 774 1101+2 11+25 3+31 3+33 4+11 2+7 619+6 30806+5 247+11 12+2 3+1 70 489+30",
      "126+3 177+47 5+1 21186+6 862+1 20 320+27 36 49+42 390+39 9+51 12 145+310 10+21 11+7 249+62",
      "9+8 465+31 33+38 5+11 138+17 8+3 13+6 1232 209+38 87 13 7+19 12+17 2+42 115+58 6+9 8+2 2+7",
      "3+1 3+21 2+6 2+1 2+4 3+8 3+1 3+2 10 6+6 3+6 4+4 268+71 9+9 167+53 3+17 55+68 12+9 583+82 13",
      "449+56 2167+41 203+11 6 17868+30 2+9 5+1 97+29 3+5 11+69 11+9 2+6 2+20 6+18 20593+106 6+12",
      "4+8 8+9 3+7 11101+196 3+15 2025 33+21 22+1 533+11 10 71 23+11 38 6+3 6+11 18+6 72 2 183 5+1",
      "64+1 5+6 30+17 2+40 2+85 71+1 14+47 71+9 17+12 4+3 141+84 44+11 5+55 9+9 7+39 9+29"]⟩,
  ⟨["8.0", "v80"], [
      "2227+1 47 534 353 261 1686 3+5 3265 204+1 2657+3 29662+8 1737 241 35+5 325+1 611+3 13+79",
      "21103+1 2737+18 2+1 6+4 189+1 3+15 3+45 641+50 14+50 8+5 1226+3 15+4 161+6 2 2+3 2+14 2+10",
      "87 80 634+19 291+25 4+14 5+15 3162 231+195 7869+582 35736+10 1560+651 16+4 2+14 6270+2 79+1",
      "80+4 37+7 256 76+4 244+1 140 576+8 104+4 60 48736+5761"]⟩,
  ⟨["9.0", "v90"], [
      "2230+7 23+14 926 207 5+2 2+6 24+2 3848+8 371 1536+3 2629+1 31082 279 22728+1 802+35 5+35",
      "3395 450+89 2 2 515+12 1428+8 2+44 2+13 11+28 4+31 3+21 2+13 21290 32+6124 20+754 21774+6",
      "2+16 3+6 2+1 2+4 2262+74 6+9 5+1 2108+17 143 831 42 301+1 34+2 547+5 2+7 9 3+11 2+11 5+14",
      "39+12"]⟩,
  ⟨["10.0", "v100"], [
      "2144+10 402+1 253+5 513 59+1 4027 255+3 710 832 2003 627+4 741 28328+20 25411+2 5841+71 9+51",
      "3+22 2+4 606+6 2+1 2+43 4 2+1 2+8 9+9 21128 16417+284 82+395 16229+5 1134+1 35+1 520+11 20",
      "9+7 2+1 26 19+12 39+5 57+22 54474+7472"]⟩,
  ⟨["11.0", "v110"], [
      "1376 40 103 526+2 212 299 120 398 128 3060 1048+42 3+2 3835+2 23+24 5+14 588+4 737 28348+4",
      "1984 9+1 325+1 24885+1 19 696+39 9+9 455+39 9+41 372 119+2 501 291 700 230+59 610 707+5 2+1",
      "2+36 2+1 2+5 8+9 311+24 20296+90 6483+4 19183+19 127+6 6393+67 1147 1482 220+3 373+2 29+4",
      "3+3 4 2+3 25+10 14+9 8+1 37+24 97+13"]⟩,
  ⟨["12.0", "v120"], [
      "3191 527 3 3 2+5 5 8 8+1 3 14 3648 3791 54 592 31083+5 3+4 928+1 25721+22 1129 601 744+7",
      "3+45 3+10 160+1 1339+49 14 5169+8 15117+5 5 48+8 91+1 6159+5 10585+2 18+3 12185+44 4+13 3+9",
      "5+1 369+57 6 1612 950+60 1071 1385 37 230+11 290+2 48 50 10 42+5 4+1 11+5 4+7 3+2 49+83 29+3",
      "5+2 6+2 14+5"]⟩,
  ⟨["12.1", "v121"], [
      "13055"]⟩,
  ⟨["13.0", "v130"], [
      "2238+9 654 431 125 3390+1 4311 697+2 873+4 7159+9 21041+12 1995+3 43+1 54 828+3 22065",
      "3300+41 2+2 3+1 255+27 380 135+1 651 6+1 1183+6 3 3+7 2+1 2+29 2+1 3+11 10+9 1623 20532 12+1",
      "6914+482 43+8 25605+2 94+2 62 1321+1 36+1 436+1 91 102 5+1 43+1 7+2 30 169 15+3 16+18 8+6",
      "10+2 14+6 42+146 2+54 38+9 43742+6 22819+4938"]⟩,
  ⟨["14.0", "v140"], [
      "1565 595+30 2+1 7+7 22 19+10 874 33 128 2608 8 10 240 690+13 126 49+1 636 710 2927 48 500+10",
      "29088+2 1985+1 15+1 2 2+4 25+2 21454 382+15 128 47+1 1905+10 2+14 2+6 2+1 2+10 2+14 2+6 2+1",
      "452+5 2+41 2+8 1974+25 231+5 77 1527 135+6 874+15 5329+98 14974+78 2+9 17703+3 2+6 2+1 289+3",
      "7646+45 3+22 10+115 550+1 3350+30 882+30 1330+6 2+3 2+1 2+14 3807+2 273 393 83 175+1 45+3",
      "11+3 9+2 18+2 7+7 9+6 44008+1 4182+3"]⟩,
  ⟨["15.0", "v150"], [
      "3315 475 65583+2 832+2 2239+9 1015+16 2+40 4+27 5334 10+28 31965 35 8555+19 3154+5 262+61 34",
      "1089+41 4579 152+2 5+4 90 668+2 16+1 37+2 12+2 2 15+1 11+1 13 15+1 48193 23575+4191"]⟩,
  ⟨["v151", "15.1"], [
      "12284+3 496 178689+621"]⟩,
  ⟨["v160", "16.0"], [
      "2199 4791+1 48 266+1 1949+2 3515+1 30182+2 13+2 24036+51 1869+37 4+28 9+1 307+2 56 1156+9 2",
      "3 2+37 2+9 2 3 2+3 2+9 2+1 9+1 750+19 1245+33 15+9 865 5382+3994 7430+57 3079+57 8070",
      "16129+249 7+435 5917+42 5 4787+9 5+1 456 6 47 8 22 3 10 226+36"]⟩]

end RuleTree.Unicode
