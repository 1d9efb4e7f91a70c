import RuleTree.Unicode.CodeRanges

/-! The general categories, one table for each; surrogates have none because text holds no
surrogate. -/

namespace RuleTree.Unicode

/-- The code points of each general category. -/
def categories : List Table := [
  ⟨["cc", "control", "cntrl"], [
      "0+31 96+32"]⟩,
  ⟨["cf", "format"], [
      "173 1363+5 23 193 50 385+1 81 3884 2045+4 27+4 50+4 2+9 56976 250+2 4290 16 9059+15 34913+3",
      "5328+7 798343 31+95"]⟩,
  ⟨["cn", "unassigned"], [
      "888+1 7+3 8 2 21 398 39+1 51+1 4 56+7 28+3 7+10 271 61+1 102+13 60+1 50+1 16 29+1 2 12+4 32",
      "3+4 238 9+1 3+1 23 8 2+2 5+1 10+1 3+1 5+7 2+3 3 6+1 26+1 4 7+3 3+1 23 8 3 3 3+1 2 6+3 3+1",
      "4+2 2+6 5 2+6 18+9 4 10 4 23 8 3 6+1 11 4 4+1 2+14 5+1 13+6 8 4 9+1 3+1 23 8 3 6+1 10+1 3+1",
      "4+6 4+3 3 6+1 19+9 3 7+2 4 5+2 3 2 3+2 3+2 4+2 13+3 6+2 4 5+1 2+5 2+13 22+4 14 4 24 17+1 10",
      "4 5+6 3 4+1 2+1 5+1 11+6 23 4 24 11 6+1 10 4 5+6 3+5 3 5+1 11 4+11 14 4 52 4 7+3 17+1 27 4",
      "19+2 25 10 2+1 8+2 2+3 7 2 9+5 11+1 4+11 59+3 30+36 3 2 6 25 2 24+1 6 2 8 11+1 5+31 73 37+3",
      "40 37 16 14+36 199 2+4 2+1 378 5+1 8 2 5+1 42 5+1 34 5+1 8 2 5+1 16 58 5+1 68+1 33+2 27+5",
      "87+1 7+1 670+2 90+6 23+8 25+8 21+11 14 4 3+11 95+1 11+5 11+5 27+5 90+6 44+4 71+9 32 13+3",
      "13+3 2+2 43+1 6+10 45+3 27+5 12+2 63+1 66 30+1 12+5 11+5 15+1 32+48 78 167+7 61+2 16+2 63+4",
      "44+1 12+7 44+4 535+1 7+1 39+1 7+1 9 2 2 2 32+1 54 16 15+1 7 20+1 4 10 102 13+1 28 14+2 34+14",
      "34+14 141+3 667+21 12+20 1813+1 33 350+4 46 2+4 2+1 57+6 3+13 25+8 8 8 8 8 8 8 8 8 127+33 27",
      "90+11 215+25 81 87+1 104+4 44 95 87+8 49 29294+2 56+8 349+19 185+7 207+1 3 2 9+20 60+2 11+5",
      "57+7 71+7 13+5 117+10 31+2 79 12+3 34 56+8 15+1 11+1 104+23 29+9 7+1 7+1 7+8 8 8 61+3 127+1",
      "11+5 11173+11 24+3 50+3 8815+1 107+37 8+11 6+4 27 6 2 3 3 126+15 446+1 55+6 2+31 43+5 52 20",
      "5+3 6 136+1 2 191+2 7+1 7+1 7+1 4+2 8 8+9 6+1 13 27 20 3 16+1 15+33 124+4 4+3 46+2 89 14+2",
      "2+46 47+129 30+2 50+14 29+3 37+8 31+4 44+4 31 38+3 15+41 159+1 11+5 37+3 37+3 41+7 53+10 13",
      "16 8 3 12 16 8 3+2 53+11 312+8 23+9 9+23 7 43 10+68 7+1 2 45 3+2 2+1 24 73+7 10+47 20 3+4",
      "34+2 28+4 2+63 57+3 21+1 51 3+4 9 4 30+1 4+3 11+6 10+6 65+31 40+3 13+8 55+2 30+1 28+4 27+6",
      "5+11 8+79 74+54 52+12 52+6 47+7 11+5 39+2 30+7 3+207 32 43 4+1 3+15 4+54 45+7 43+21 27+37",
      "29+19 24+8 79+3 37+8 69+9 2+1 26+6 11+5 54 19+7 40+8 97 21+10 19 48+61 8 2 5 16 12+5 60+4",
      "11+5 5 9+1 3+1 23 8 3 6 11+1 3+1 4+1 2+5 2+4 8+1 8+2 6+10 11 2+1 2 39 11 2+1 2 5 11 3+7 3+28",
      "93 6+29 73+7 11+165 55+1 39+33 70+10 11+5 14+18 59+5 11+5 21+27 28+1 16+3 24+184 61+99 84+11",
      "9+1 2+1 9 3 31 3+1 13+8 11+69 9+1 47+1 12+26 73+7 84+12 74+6 11+181 35+13 11+5 10 46 15+9",
      "30+2 33+1 23 15+72 8 3 45+2 2 3 10+7 11+5 7 3 38 3 7+6 11+309 26+6 18 42+2 30+84 2+14 51+12",
      "924+101 112 6+10 197+2635 100+12 1111+9 3996+4 584+6840 59+1733 570+6 32 11+3 82 11+5 31+1",
      "7+9 71+9 11 8 22+4 20+431 59+197 92+100 76+3 58+6 18+63 6+10 3+13 6137+7 1239+40 11+8934 5 8",
      "3 292+14 2+28 4+1 2+13 5+7 397+2307 108+4 14+2 10+6 11+1 9+3931 251+5 437+75 47+1 24+8",
      "117+59 247+9 40+1 195+20 71+121 21+11 21+11 88+8 26+134 86 72 3+1 2+1 3+1 5 13 2 8 66 5+1 9",
      "8 29 5 6 2+2 8 341+1 293+1 703+14 6 16+1103 32+5 7+212 8 18+1 8 3 6+4 63+32 2+111 46+2 15+1",
      "11+3 3+319 32+16 59+4 2+463 43+213 44+3 2+479 8 5 3 16 198+1 17+40 77+3 11+3 3+784 69+75",
      "62+193 5 28 3 2+1 2 11 5 2 2+5 2+3 2 2 2 4 3 2+1 2 2 2 2 2 3 2+1 5 8 5 5 2 11 18+4 4 6 18+51",
      "3+269 45+3 101+11 16+1 16 16 38+9 175+55 30+12 45+3 10+6 3+13 7+153 985+3 18+2 14+2 120+3",
      "96+5 13+3 2+14 13+3 57+7 11+5 41+7 31+1 13+3 3+61 341+11 15+1 14+2 11+4 57+6 16+1 12+5 10+6",
      "148 103+1029 42721+31 4155+5 223+1 5763+13 7474+14 623+2465 543+1505 4940+4 4193+711760 2+29",
      "97+127 241+65039 65535+1 65535+1"]⟩,
  ⟨["co", "privateuse"], [
      "57344+6399 919297+65533 3+65533"]⟩,
  ⟨["ll", "lowercaseletter"], [
      "97+25 59 42+23 2+7 2 2 2 2 2 2 2 2 2 2 2 2 2 2 2 2 2 2 2 2 2 2 2 2 2 2 2 2+1 2 2 2 2 2 2 2",
      "2+1 2 2 2 2 2 2 2 2 2 2 2 2 2 2 2 2 2 2 2 2 2 2 2 3 2 2+2 3 2 3 4+1 5 3 4+2 3 3 2 2 3 2+1 2",
      "3 4 2 3+1 3+2 7 3 3 2 2 2 2 2 2 2 2+1 2 2 2 2 2 2 2 2 2+1 3 2 4 2 2 2 2 2 2 2 2 2 2 2 2 2 2",
      "2 2 2 2 2 2 2 2 2 2 2 2 2 2 2+6 3 3+1 2 5 2 2 2 2+68 2+26 194 2 4 4+2 19 28+34 2+1 4+2 2 2 2",
      "2 2 2 2 2 2 2 2 2+4 2 3 3+1 52+47 2 2 2 2 2 2 2 2 2 2 2 2 2 2 2 2 2 10 2 2 2 2 2 2 2 2 2 2 2",
      "2 2 2 2 2 2 2 2 2 2 2 2 2 2 2 3 2 2 2 2 2 2+1 2 2 2 2 2 2 2 2 2 2 2 2 2 2 2 2 2 2 2 2 2 2 2",
      "2 2 2 2 2 2 2 2 2 2 2 2 2 2 2 2 2 2 2 2 2 2 2 2 2 49+40 2888+42 3+2 761+5 2179+8 2 118+43",
      "64+12 2+33 103 2 2 2 2 2 2 2 2 2 2 2 2 2 2 2 2 2 2 2 2 2 2 2 2 2 2 2 2 2 2 2 2 2 2 2 2 2 2 2",
      "2 2 2 2 2 2 2 2 2 2 2 2 2 2 2 2 2 2 2 2 2 2 2 2 2 2 2 2 2 2 2 2 2 2 2+8 2 2 2 2 2 2 2 2 2 2",
      "2 2 2 2 2 2 2 2 2 2 2 2 2 2 2 2 2 2 2 2 2 2 2 2 2 2 2 2 2 2 2 2 2 2 2 2 2 2 2+8 9+5 11+7 9+7",
      "9+5 11+7 9+7 9+13 3+7 9+7 9+7 9+4 2+1 7 4+2 2+1 9+3 3+1 9+7 11+2 2+1 275 4+1 4 28 5 5 3+1",
      "9+3 5 54 2732+47 2 4+1 2 2 2 5 2+1 2+5 6 2 2 2 2 2 2 2 2 2 2 2 2 2 2 2 2 2 2 2 2 2 2 2 2 2 2",
      "2 2 2 2 2 2 2 2 2 2 2 2 2 2 2 2 2 2 2 2 2 2 2+1 8 2 5 13+37 2 6 30996 2 2 2 2 2 2 2 2 2 2 2",
      "2 2 2 2 2 2 2 2 2 2 2 20 2 2 2 2 2 2 2 2 2 2 2 2 2 136 2 2 2 2 2 2+2 2 2 2 2 2 2 2 2 2 2 2 2",
      "2 2 2 2 2 2 2 2 2 2 2 2 2 2 2 2 2 2 2 2+7 2 2 3 2 2 2 2 5 2 3 2+2 2 2 2 2 2 2 2 2 2 2 6 6 2",
      "2 2 2 2 2 2 5 2 3 4 2 2 2 2 2 27 4 822+42 6+8 8+79 20289+6 13+4 1066+25 1230+39 137+35",
      "156+10 2+14 2+6 2+1 1796+50 126+21 2875+31 21889+31 26011+25 27+6 2+17 27+25 27+3 2 2+6 2+10",
      "27+25 27+25 27+25 27+25 27+25 27+25 27+25 27+25 27+27 29+24 2+5 27+24 2+5 27+24 2+5 27+24",
      "2+5 27+24 2+5 2 1845+9 2+19 7+5 2552+33"]⟩,
  ⟨["lm", "modifierletter"], [
      "688+17 5+11 15+4 8 2 134 6 479 231 165+1 270+1 5 32 10 4 161 168 1237 128 566 1755 108 612",
      "465+5 175+62 14 35+36 690 14 17+12 3040+1 242 192 470 44+4 6 98+1 94+2 28439 1251+5 271 115",
      "29+1 122+8 81 24 106+2 4+1 470 23 138 109 22+1 104+3 10 21511 46+1 2017+5 2+41 2+8 1428 33",
      "24017+3 509+2 41+1 551+12 65+1 2 16397+3 2+6 2+1 12338+61 202+6 942 1120"]⟩,
  ⟨["lo", "otherletter"], [
      "170 16 257 5+3 209 828+26 5+3 46+31 2+9 36+1 2+98 2 25+1 11+2 3 17 2+29 30+88 12 25+32 22+21",
      "43+24 8+10 6+23 2+5 18+40 60+53 4 19 8+9 17+14 5+7 3+1 3+21 2+6 2 4+3 4 17 14+1 2+2 15+1 11",
      "9+5 5+1 3+21 2+6 2+1 2+1 2+1 32+3 2 20+2 17+8 2+2 2+21 2+6 2+1 2+4 4 19 16+1 24 12+7 3+1",
      "3+21 2+6 2+1 2+4 4 31+1 2+2 16 18 2+5 4+2 2+3 4+1 2 2+1 4+1 4+2 4+11 23 53+7 2+2 2+22 2+15 4",
      "27+2 3 3+1 31 5+7 2+2 2+22 2+9 2+4 4 32+1 2+1 16+1 18+8 2+2 2+40 3 17 6+2 9+2 25+5 6+17 4+23",
      "2+8 2 3+6 59+47 2+1 13+5 60+1 2 2+4 2+23 2 2+9 2+1 10 3+4 24+3 33 64+7 2+35 28+4 116+42 21",
      "17+5 5+3 4 4+1 8+2 5+12 13 114+328 2+3 3+6 2 2+3 3+40 2+3 3+32 2+3 3+6 2 2+3 3+14 2+56 2+3",
      "3+66 38+15 114+619 3+16 2+25 6+74 7+7 8+17 14+18 15+17 15+12 2+2 16+51 41 68+34 2+52 8+4",
      "3+33 2 6+69 11+30 50+29 3+4 12+43 5+25 55+22 10+52 177+46 18+7 55+29 14+1 11+43 27+35 42+2",
      "11+29 114+3 2+5 2+1 4 1083+3 3064+55 25+22 10+6 2+6 2+6 2+6 2+6 2+6 2+6 2+6 552 54 5+85 9",
      "2+89 5 6+42 2+93 18+31 49+15 513+6591 65+21012 2+1142 68+39 9+267 5+15 11+1 67 50+69 170 104",
      "4+6 2+2 2+3 2+22 30+51 15+49 63+5 4 2+1 12+27 11+22 26+28 8+46 46+4 3+8 11+4 2+40 24+2 2+7",
      "21+15 2+5 4 4+49 2 4+1 3+4 3 2 25+1 4+10 8 15+5 3+5 3+5 10+6 2+6 146+34 30+11171 13+22 5+48",
      "8453+365 3+105 68 2+9 2+12 2+4 2 2+1 2+1 2+107 34+362 19+63 3+53 41+11 117+4 2+134 106+9",
      "2+44 3+30 4+5 3+5 3+5 3+2 36+11 2+25 2+18 2+1 2+14 3+13 35+122 390+28 4+48 48+31 14+19 2+7",
      "7+37 11+29 3+35 5+7 129+77 99+39 9+51 93+51 13+310 10+21 11+7 153+5 3 2+43 2+1 4 3+22 11+22",
      "10+30 66+18 2+1 11+21 11+25 71+55 7+1 65 16+3 2+2 2+28 43+28 4+28 36+7 2+27 28+53 11+21",
      "11+18 14+17 111+72 184+35 39+3 2 305+41 7+1 17+2 60+28 11 9+21 43+17 47+20 28+22 13+52 58+1",
      "3 14+44 33+24 27+35 30 3 9+34 4 13+47 15+3 22 2 36+17 2+24 20+1 64+6 2 2+3 2+14 2+9 8+46",
      "39+7 3+1 3+21 2+6 2+1 2+4 4 19 13+4 31+9 2 3 2+37 2 26 2 45+52 19+3 21+2 31+47 21+1 2 185+46",
      "42+3 37+47 21 60+42 14 72+26 38+6 186+43 212+7 3 3+7 2+1 2+23 16 2 95+7 3+38 17 2 29 11+39 8",
      "22 12+45 20 19+72 200+32 32+8 2+36 18 50+29 113+6 2+1 2+37 22 26+5 2+1 2+31 15 328+18 16",
      "2+12 2+33 125 80+921 231+195 2637+96 16+1071 18+5 26+3994 6+582 6842+29 1763+568 8+30 18+78",
      "18+29 19+47 52+20 6+18 436+39 406+74 6 176+6135 9+1237 42+9 8952+290 16 30+2 3 15+3 9+395",
      "2309+106 6+12 4+8 8+9 8817 502+44 34 322+29 19+43 485+26 230+29 3 496+6 2+3 2+1 2+14 2+196",
      "1340+3 2+26 2+1 2 3 2+9 2+3 2 2 7 5 2 2 2+2 2+1 2 3 2 2 2 2 2+1 2 3+3 2+6 2+3 2+3 2 2+9 2+16",
      "6+2 2+4 2+16 4421+42719 33+4153 7+221 3+5761 15+7472 16+621 2467+541 1507+4938 6+4191"]⟩,
  ⟨["lt", "titlecaseletter"], [
      "453 3 3 39 7574+7 9+7 9+7 13 16 48"]⟩,
  ⟨["lu", "uppercaseletter"], [
      "65+25 102+22 2+6 34 2 2 2 2 2 2 2 2 2 2 2 2 2 2 2 2 2 2 2 2 2 2 2 2 2 2 2 3 2 2 2 2 2 2 2 3",
      "2 2 2 2 2 2 2 2 2 2 2 2 2 2 2 2 2 2 2 2 2 2 2+1 2 2 4+1 2 2+1 2+2 3+3 2+1 2+2 4+1 2+1 2 2",
      "2+1 2 3 2+1 2+2 2 2+1 4 8 3 3 3 2 2 2 2 2 2 2 3 2 2 2 2 2 2 2 2 3 3 2+2 2 2 2 2 2 2 2 2 2 2",
      "2 2 2 2 2 2 2 2 2 2 2 2 2 2 2 2 2 2 2 8+1 2+1 3 2+3 2 2 2 2 290 2 4 9 7 2+2 2 2+1 2+16 2+8",
      "36 3+2 4 2 2 2 2 2 2 2 2 2 2 2 6 3 2+1 3+50 49 2 2 2 2 2 2 2 2 2 2 2 2 2 2 2 2 10 2 2 2 2 2",
      "2 2 2 2 2 2 2 2 2 2 2 2 2 2 2 2 2 2 2 2 2 2+1 2 2 2 2 2 2 3 2 2 2 2 2 2 2 2 2 2 2 2 2 2 2 2",
      "2 2 2 2 2 2 2 2 2 2 2 2 2 2 2 2 2 2 2 2 2 2 2 2 2 2 2 2 2 2 2 3+37 2890+37 2 6 723+85 2196",
      "7+42 3+2 321 2 2 2 2 2 2 2 2 2 2 2 2 2 2 2 2 2 2 2 2 2 2 2 2 2 2 2 2 2 2 2 2 2 2 2 2 2 2 2 2",
      "2 2 2 2 2 2 2 2 2 2 2 2 2 2 2 2 2 2 2 2 2 2 2 2 2 2 2 2 2 2 2 2 2 2 10 2 2 2 2 2 2 2 2 2 2 2",
      "2 2 2 2 2 2 2 2 2 2 2 2 2 2 2 2 2 2 2 2 2 2 2 2 2 2 2 2 2 2 2 2 2 2 2 2 2 10+7 9+5 11+7 9+7",
      "9+5 12 2 2 2 9+7 73+3 13+3 13+3 13+4 12+3 263 5 4+2 3+2 3 4+4 7 2 2 2+3 3+3 11+1 6 62",
      "2685+47 49 2+2 3 2 2 2+3 2 3 9+2 2 2 2 2 2 2 2 2 2 2 2 2 2 2 2 2 2 2 2 2 2 2 2 2 2 2 2 2 2 2",
      "2 2 2 2 2 2 2 2 2 2 2 2 2 2 2 2 2 2 2 9 2 5 31054 2 2 2 2 2 2 2 2 2 2 2 2 2 2 2 2 2 2 2 2 2",
      "2 20 2 2 2 2 2 2 2 2 2 2 2 2 2 136 2 2 2 2 2 2 4 2 2 2 2 2 2 2 2 2 2 2 2 2 2 2 2 2 2 2 2 2 2",
      "2 2 2 2 2 2 2 2 11 2 2+1 2 2 2 2 5 2 3 2 4 2 2 2 2 2 2 2 2 2 2+4 2+4 2 2 2 2 2 2 2 2+3 2 2+1",
      "4 6 2 2 2 25 22316+25 1222+39 137+35 157+10 2+14 2+6 2+1 1771+50 158+21 2875+31 21889+31",
      "26017+25 27+25 27+25 27 2+1 3 3+1 3+3 2+7 27+25 27+1 2+3 3+7 2+6 28+1 2+3 2+4 2 4+6 28+25",
      "27+25 27+25 27+25 27+25 27+25 31+24 34+24 34+24 34+24 34+24 34 4406+33"]⟩,
  ⟨["mc", "spacingmark"], [
      "2307 56 3+2 9+3 2+1 51+1 59+2 7+1 3+1 11 44 59+2 67 59+2 9 2+1 54+1 59 2 7+1 3+1 11 103+1",
      "2+1 4+2 2+2 11 42+2 62+3 62+1 59 2+4 3+1 2+1 10+1 29 15+1 59+2 6+2 2+2 11 43+1 76+2 7+7 19+1",
      "331+1 64 172+1 5 7 3+1 26+1 11+2 3+6 22+1 3+5 3 11+2 1657 31 130 8+7 2+1 347+3 3+2 5+1 2+5",
      "225+1 59 2 10 2+1 9+5 146 49 6 2+4 2+1 62 31 5+1 3 61 3+2 2 4+1 49+7 9+1 172 22 4919+1",
      "30708+1 3 89+1 51+15 143+1 48 49+1 5+1 3+2 111+1 3+1 25 46 2 110 3+1 6 238+1 2+1 2+1 2 25620",
      "2 128 46+2 5+1 116 25+1 60 49+2 10+1 14 94+2 4+1 2 171+2 32+1 59+1 2+3 3+1 3+2 10 11+1 85+2",
      "8 3 2+3 2+1 2 102+2 9+1 4 107+2 7 2+3 3 238+2 7+3 3 114+2 9+1 2 110 2+1 7 106+1 5 262+2 10",
      "248+5 2+1 5 3 2 143+2 9+3 5 85 30+1 63 408 15 107 8 3 214+4 5+1 2 351+1 13 49+1 9+1 2",
      "16873+2 3621+54 105+1 24948+1 7+5"]⟩,
  ⟨["me", "enclosingmark"], [
      "1160+1 5685 1567+3 2+2 34188+2"]⟩,
  ⟨["mn", "nonspacingmark"], [
      "768+111 276+4 266+44 2 2+1 2+1 2 73+10 49+20 17 102+6 3+5 3+1 2+3 36 31+26 92+10 59+8 10",
      "25+3 2+8 2+2 2+4 44+2 60+8 43+23 2+31 56 2 5+7 5 4+6 11+1 30 59 5+3 9 21+1 27 3+1 58 5+1 5+1",
      "3+2 4 31+1 4 12+1 58 5+4 2+1 5 21+1 23+5 2 59 3 2+3 9 8+1 12+1 31 62 13 51 4 56 2+2 6+2 2+3",
      "8+1 12+1 30 59 3 7 6+1 21+1 29+1 58+1 5+3 9 21+1 30 73 8+2 2 91 3+6 13+7 99 3+8 12+6 74+1 28",
      "2 2 56+13 2+4 2+1 6+10 2+35 10 103+3 2+5 2+1 3+1 26+1 5+2 17+3 14 3+1 7 16 704+2 947+2 30+1",
      "31+1 31+1 65+1 2+6 9 3+10 10 46+2 2 118+1 35 119+2 5+1 10 7+2 220+1 3 59 2+6 2 2 3+7 7+9 3",
      "49+13 2+15 50+3 49 2+4 2 6 41+8 13+1 33+3 3+1 2+2 57 2+1 4 2+2 59+7 3+1 153+2 2+12 2+6 5 7",
      "4+1 199+63 721+12 5 4+11 3071+2 142 97+31 555+3 108+1 30165 5+9 33+1 81+1 273 4 5 26+1 6",
      "152+1 27+17 14 39+7 26+10 47+2 49 3+3 3+1 40 68+5 3+1 3+1 13 9 48 52 2+2 3+1 6+1 2 43+1 9",
      "239 3 5 20273 738+15 17+15 974 227 150+4 1671+2 2+1 6+3 41+2 5 166+1 574+3 66+4 318+1 80+3",
      "71+10 50+3 124 55+14 42 3+1 11+2 50+3 3+1 8 62+2 37+4 2+7 63 13+1 53+8 11+3 3 96+2 3 2+1 7 3",
      "158 4+7 22+1 58+1 4 38+6 4+4 71+5 14 2 2 15+1 86+7 3+2 2 24 85+5 2 5+1 2+1 239+3 7+1 2+1",
      "28+1 86+7 3 2+1 107 2 3+5 2 102+2 3+3 2+4 260+8 2+1 257+1 2 5 145+3 3+1 5 33+9 41+5 3+3 9",
      "10+5 3+2 47+12 2+1 407+6 2+5 2 83+21 3+6 2+1 2+1 123+5 4 2+1 2+6 2 73+1 4 2 348+1 12+1 53+4",
      "6 2 24 5350 7+14 11465+11 4+2 2497+4 60+6 1049 64+3 82 19641+1 4706+45 3+22 545+2 18+7 3+6",
      "31+3 149+2 1980+54 5+49 9 15 23+4 2+14 1361+6 2+16 3+6 2+1 2+4 101 161+6 376 62+3 509+3",
      "255+1 737+6 110+6 792502+239"]⟩,
  ⟨["nd", "decimalnumber", "digit"], [
      "48+9 1575+9 135+9 199+9 413+9 119+9 119+9 119+9 119+9 119+9 119+9 119+9 119+9 119+9 97+9",
      "119+9 71+9 279+9 71+9 1863+9 39+9 301+9 129+9 167+9 7+9 183+9 87+9 135+9 7+9 35271+9 679+9",
      "39+9 199+9 23+9 87+9 407+9 21271+9 1415+9 2183+9 7+9 797+9 129+9 61+9 145+9 279+9 343+9",
      "119+9 375+9 103+9 7+19 77+9 423+9 103+9 663+9 87+9 247+9 71+9 423+9 16855+9 2343+9 87+9",
      "135+9 535+9 24439+9 2773+49 2369+9 423+9 503+9 248+9 854+9 4759+9"]⟩,
  ⟨["nl", "letternumber"], [
      "5870+2 2672+34 3+3 3711 26+8 15+2 30380+9 23121+52 461 9 135+4 8235+110"]⟩,
  ⟨["no", "othernumber"], [
      "178+1 6 3+2 2358+5 377+5 121+2 134+6 218+6 18+8 434+9 1078+19 1140+9 481 1686 4+5 7+9 199+15",
      "42 727+59 79+21 631+29 1386 1173+3 139+9 31+7 2+14 33+9 40+14 30065+5 22738+44 66+3 18+1",
      "342+26 37+3 1333+7 26+6 40+8 76+4 23+5 161+1 3+15 3+45 65+8 53+1 31+2 76+4 105+7 25+7 42+6",
      "331+5 353+30 159+9 43+3 113+6 135+19 380+19 1350+1 431+8 872+18 852+20 19335+6 799+22",
      "25642+19 13+19 109+24 5455+8 930+58 2+2 2+3 77+44 2+14 963+12"]⟩,
  ⟨["pc", "connectorpunctuation"], [
      "95 8160+1 20 56799+1 25+2 240"]⟩,
  ⟨["pd", "dashpunctuation"], [
      "45 1373 52 3650 1030 2058+5 3586 3 32+1 5 29 447 20 112 52625+1 38 11 170 3681 319"]⟩,
  ⟨["pe", "closepunctuation"], [
      "41 52 32 3774 2 1887 2474 56 16 635 2 31 1087 2 2 2 2 2 2 81 33 2 2 2 2 405 2 2 2 2 2 2 2 2",
      "2 2 65 2 34 1062 2 2 2 45 2 2 2 429 2 2 2 2 4 2 2 2 3+1 52511 218 30 2 2 2 2 2 2 2 4 18 2 2",
      "171 52 32 3 3"]⟩,
  ⟨["pf", "finalpunctuation"], [
      "187 8030 4 29 3529 2 5 3 16 4"]⟩,
  ⟨["pi", "initialpunctuation"], [
      "171 8045 3+1 3 26 3529 2 5 3 16 4"]⟩,
  ⟨["po", "otherpunctuation"], [
      "33+2 2+2 3 2 2+1 11+1 4+1 28 69 6 15+1 8 703 9 467+5 42 55 3 3 45+1 21+1 2+1 14 2+2 75+3 103",
      "44+13 234+2 55+14 32 262+1 11 141 121 122 391 13 368 91 11+1 169+14 2 113 75+4 5+1 112+5 172",
      "613+8 774 125+2 72+1 158+2 2+2 38+5 2+3 314+1 217+1 129+6 2+5 161+1 11+6 29+2 125+3 60+4",
      "63+1 65+7 12 835+1 9+7 9+8 3+3 3+2 4+10 2 2+9 3227+3 2+1 113 144+1 5+2 3 3+8 2+1 2 3+1 11+4",
      "2+9 3+3 2 2+12 3+2 429+2 58 190 29699+1 270+2 100 11 116+5 381+3 87+1 41+2 2 50+1 48 98+12",
      "17+1 125+3 127+1 17+1 250 21029+6 3 23 21+1 3+3 4+2 2+3 8+2 7 2+1 150+2 2+2 3 2 2+1 11+1 4+1",
      "28 37 3+1 411+2 669 49 415 744 200 32 273+8 39 113+6 67+6 90+3 953+4 45+3 190+6 110+1 2+3",
      "127+3 49+1 80+3 5 14 2+2 89+5 108 299+1 2+1 115+4 11+1 2 105 251+22 106+2 29+12 77 131+2 253",
      "265+2 156 93+7 84+2 2+4 94+9 216 96+4 43+1 646+1 75+12 176 1137+4 2941+1 14972+1 134 66+4 9",
      "553+2 296+3 328 19645 7656+4 2932 863+1"]⟩,
  ⟨["ps", "openpunctuation"], [
      "40 51 32 3775 2 1887 2431 4 39 56 16 635 2 31 1087 2 2 2 2 2 2 81 33 2 2 2 2 405 2 2 2 2 2 2",
      "2 2 2 2 65 2 34 1062 2 2 2 26 19 2 2 2 429 2 2 2 2 4 2 2 2 3 52514 216 30 2 2 2 2 2 2 2 4 18",
      "2 2 171 51 32 4 3"]⟩,
  ⟨["sc", "currencysymbol"], [
      "36 126+3 1258 124 499+1 499+1 8 246 264 582 2460 2245+32 34680 21956 109 155 220+1 4+1",
      "8183+3 49951 2481"]⟩,
  ⟨["sk", "modifiersymbol"], [
      "94 2 72 7 5 4 522+3 13+13 6+6 2 2+16 118 15+1 1283 5941 2+2 12+2 14+2 14+2 14+1 4253+1",
      "30308+22 10+1 104+1 977 15+1 20551+16 892 2 163 62488+4"]⟩,
  ⟨["sm", "mathsymbol"], [
      "43 17+2 62 2 46 5 38 32 767 528+2 6716 14 40+2 14+2 140 40+4 7 69+4 6+1 5 3 3 8 32+1 3 2",
      "32+267 33+1 91 31+24 41+5 470 10 55+7 112 337+4 3+30 11+15 257+130 23+62 5+31 3+257 49+20",
      "3+5 53213 825 2+2 165 17+2 62 2 132 7+3 3490+1 51506 26 32 26 32 26 32 26 32 26 5933+1"]⟩,
  ⟨["so", "othersymbol"], [
      "166 3 5 2 978 267+1 128+1 207 11 20+1 248 516 374 131+5 2 133 208 42 392+2 16 2+2 3+5 21 2 2",
      "134+7 2+5 2+1 6+3 198+1 753+9 724 723 158+33 354+9 10+8 1412+1 2+3 2+1 11 2+1 7+5 2 2 2 5",
      "12+1 15 2+1 2 59+1 10+4 3+3 2+1 2+1 2+6 2+30 3+1 2 2+30 269+7 5+19 3+6 3+80 2+29 26+39 7+71",
      "23+10 82+77 23+182 2+8 2+53 9+110 2+247 45+43 65+255 513+47 22+1 7+38 3+31 2+104 230+5 358+1",
      "47+25 2+88 13+213 27+15 5 14+1 13 22+1 7+1 337+1 5+9 33+37 10 17+30 12+29 9 16+31 11+38",
      "16+319 6593+63 22161+54 866+3 11+1 2 574+2 21191+15 128 46+2 485 4 5+1 14+1 314+8 58+16 3+2",
      "2+12 4 48+44 1659+1 592 3191 2198+7 5+16 19275+3 6 20823 3940+239 17+435 157+115 61+245",
      "11+38 3+59 6+2 23+1 8+29 5+60 22+65 4 187+86 1194+511 56+3 51+7 2+13 2+1 1737 2909 130",
      "722+43 5+99 13+14 3+14 2+14 2+36 24+160 57+28 14+43 5+8 8+1 15+5 155+250 6+727 5+16 4+12",
      "4+118 5+94 7+11 5 16+11 5+55 9+9 7+39 9+29 3+11 5+1 63+339 13+13 3+12 4+9 6+55 8+14 3+10 7+8",
      "8+146 2+91"]⟩,
  ⟨["zl", "lineseparator"], [
      "8232"]⟩,
  ⟨["zp", "paragraphseparator"], [
      "8233"]⟩,
  ⟨["zs", "spaceseparator"], [
      "32 128 5600 2432+10 37 48 4001"]⟩]

end RuleTree.Unicode
