import RuleTree.Unicode.CodeRanges

/-! Where text may be cut: the classes behind grapheme, word and sentence boundaries. -/

namespace RuleTree.Unicode

/-- Grapheme cluster break classes. -/
def graphemeBreaks : List Table := [
  ⟨["cn", "control"], [
      "0+9 2+1 2+17 96+32 14 1391 4594 2045 3+1 25+6 50+15 56976 241+11 13365+15 34913+3 5328+7",
      "798342+31 97+127 241+3599"]⟩,
  ⟨["cr"], [
      "13"]⟩,
  ⟨["ex", "extend"], [
      "768+111 276+6 264+44 2 2+1 2+1 2 73+10 49+20 17 102+6 3+5 3+1 2+3 36 31+26 92+10 59+8 10",
      "25+3 2+8 2+2 2+4 44+2 60+8 43+23 2+31 56 2 5+7 5 4+6 11+1 30 59 2 3+3 9 10 11+1 27 3+1 58",
      "5+1 5+1 3+2 4 31+1 4 12+1 58 5+4 2+1 5 21+1 23+5 2 59 2+1 2+3 9 8+2 11+1 31 60 2 13 10 41 4",
      "56 2+2 6+2 2+3 8+1 12+1 30 59 3 3 4 6+1 8+1 12+1 29+1 58+1 2 3+3 9 10 11+1 30 73 5 3+2 2 9",
      "82 3+6 13+7 99 3+8 12+6 74+1 28 2 2 56+13 2+4 2+1 6+10 2+35 10 103+3 2+5 2+1 3+1 26+1 5+2",
      "17+3 14 3+1 7 16 704+2 947+2 30+1 31+1 31+1 65+1 2+6 9 3+10 10 46+2 2 118+1 35 119+2 5+1 10",
      "7+2 220+1 3 59 2+6 2 2 3+7 7+9 3 49+30 50+3 49+6 2 6 41+8 13+1 33+3 3+1 2+2 57 2+1 4 2+2",
      "59+7 3+1 153+2 2+12 2+6 5 7 4+1 199+63 525 196+32 3071+2 142 97+31 555+5 106+1 30165+3 2+9",
      "33+1 81+1 273 4 5 26+1 6 152+1 27+17 14 39+7 26+10 47+2 49 3+3 3+1 40 68+5 3+1 3+1 13 9 48",
      "52 2+2 3+1 6+1 2 43+1 9 239 3 5 20273 738+15 17+15 367+1 606 227 150+4 1671+2 2+1 6+3 41+2 5",
      "166+1 574+3 66+4 318+1 80+3 71+10 50+3 124 55+14 42 3+1 11+2 50+3 3+1 8 62+2 37+4 2+7 63",
      "13+1 53+8 11+3 3 96+2 3 2+1 7 3 158 4+7 22+1 58+1 2 2 23 15+6 4+4 71+5 14 2 2 15+1 86+7 3+2",
      "2 24 82 3+5 2 3 2+1 2+1 236 3+3 7+1 2+1 28+1 86+7 3 2+1 107 2 3+5 2 102+2 3+3 2+4 260+8 2+1",
      "246 11+1 2 5 145+3 3+1 5 33+9 41+5 3+3 9 10+5 3+2 47+12 2+1 407+6 2+5 2 83+21 3+6 2+1 2+1",
      "123+5 4 2+1 2+6 2 73+1 4 2 348+1 12+1 53+4 6 2 24 5350 7+14 11465+11 4+2 2497+4 60+6 1049",
      "64+3 82 19641+1 4706+45 3+22 543 2+2 5+4 9+7 3+6 31+3 149+2 1980+54 5+49 9 15 23+4 2+14",
      "1361+6 2+16 3+6 2+1 2+4 101 161+6 376 62+3 509+3 255+1 737+6 110+6 2737+4 789537+95 129+239"]⟩,
  ⟨["l"], [
      "4352+95 38913+28"]⟩,
  ⟨["lf"], [
      "10"]⟩,
  ⟨["lv"], [
      "44032 28 28 28 28 28 28 28 28 28 28 28 28 28 28 28 28 28 28 28 28 28 28 28 28 28 28 28 28 28",
      "28 28 28 28 28 28 28 28 28 28 28 28 28 28 28 28 28 28 28 28 28 28 28 28 28 28 28 28 28 28 28",
      "28 28 28 28 28 28 28 28 28 28 28 28 28 28 28 28 28 28 28 28 28 28 28 28 28 28 28 28 28 28 28",
      "28 28 28 28 28 28 28 28 28 28 28 28 28 28 28 28 28 28 28 28 28 28 28 28 28 28 28 28 28 28 28",
      "28 28 28 28 28 28 28 28 28 28 28 28 28 28 28 28 28 28 28 28 28 28 28 28 28 28 28 28 28 28 28",
      "28 28 28 28 28 28 28 28 28 28 28 28 28 28 28 28 28 28 28 28 28 28 28 28 28 28 28 28 28 28 28",
      "28 28 28 28 28 28 28 28 28 28 28 28 28 28 28 28 28 28 28 28 28 28 28 28 28 28 28 28 28 28 28",
      "28 28 28 28 28 28 28 28 28 28 28 28 28 28 28 28 28 28 28 28 28 28 28 28 28 28 28 28 28 28 28",
      "28 28 28 28 28 28 28 28 28 28 28 28 28 28 28 28 28 28 28 28 28 28 28 28 28 28 28 28 28 28 28",
      "28 28 28 28 28 28 28 28 28 28 28 28 28 28 28 28 28 28 28 28 28 28 28 28 28 28 28 28 28 28 28",
      "28 28 28 28 28 28 28 28 28 28 28 28 28 28 28 28 28 28 28 28 28 28 28 28 28 28 28 28 28 28 28",
      "28 28 28 28 28 28 28 28 28 28 28 28 28 28 28 28 28 28 28 28 28 28 28 28 28 28 28 28 28 28 28",
      "28 28 28 28 28 28 28 28 28 28 28 28 28 28 28 28 28 28 28 28 28 28 28 28 28 28 28 28"]⟩,
  ⟨["lvt"], [
      "44033+26 2+26 2+26 2+26 2+26 2+26 2+26 2+26 2+26 2+26 2+26 2+26 2+26 2+26 2+26 2+26 2+26",
      "2+26 2+26 2+26 2+26 2+26 2+26 2+26 2+26 2+26 2+26 2+26 2+26 2+26 2+26 2+26 2+26 2+26 2+26",
      "2+26 2+26 2+26 2+26 2+26 2+26 2+26 2+26 2+26 2+26 2+26 2+26 2+26 2+26 2+26 2+26 2+26 2+26",
      "2+26 2+26 2+26 2+26 2+26 2+26 2+26 2+26 2+26 2+26 2+26 2+26 2+26 2+26 2+26 2+26 2+26 2+26",
      "2+26 2+26 2+26 2+26 2+26 2+26 2+26 2+26 2+26 2+26 2+26 2+26 2+26 2+26 2+26 2+26 2+26 2+26",
      "2+26 2+26 2+26 2+26 2+26 2+26 2+26 2+26 2+26 2+26 2+26 2+26 2+26 2+26 2+26 2+26 2+26 2+26",
      "2+26 2+26 2+26 2+26 2+26 2+26 2+26 2+26 2+26 2+26 2+26 2+26 2+26 2+26 2+26 2+26 2+26 2+26",
      "2+26 2+26 2+26 2+26 2+26 2+26 2+26 2+26 2+26 2+26 2+26 2+26 2+26 2+26 2+26 2+26 2+26 2+26",
      "2+26 2+26 2+26 2+26 2+26 2+26 2+26 2+26 2+26 2+26 2+26 2+26 2+26 2+26 2+26 2+26 2+26 2+26",
      "2+26 2+26 2+26 2+26 2+26 2+26 2+26 2+26 2+26 2+26 2+26 2+26 2+26 2+26 2+26 2+26 2+26 2+26",
      "2+26 2+26 2+26 2+26 2+26 2+26 2+26 2+26 2+26 2+26 2+26 2+26 2+26 2+26 2+26 2+26 2+26 2+26",
      "2+26 2+26 2+26 2+26 2+26 2+26 2+26 2+26 2+26 2+26 2+26 2+26 2+26 2+26 2+26 2+26 2+26 2+26",
      "2+26 2+26 2+26 2+26 2+26 2+26 2+26 2+26 2+26 2+26 2+26 2+26 2+26 2+26 2+26 2+26 2+26 2+26",
      "2+26 2+26 2+26 2+26 2+26 2+26 2+26 2+26 2+26 2+26 2+26 2+26 2+26 2+26 2+26 2+26 2+26 2+26",
      "2+26 2+26 2+26 2+26 2+26 2+26 2+26 2+26 2+26 2+26 2+26 2+26 2+26 2+26 2+26 2+26 2+26 2+26",
      "2+26 2+26 2+26 2+26 2+26 2+26 2+26 2+26 2+26 2+26 2+26 2+26 2+26 2+26 2+26 2+26 2+26 2+26",
      "2+26 2+26 2+26 2+26 2+26 2+26 2+26 2+26 2+26 2+26 2+26 2+26 2+26 2+26 2+26 2+26 2+26 2+26",
      "2+26 2+26 2+26 2+26 2+26 2+26 2+26 2+26 2+26 2+26 2+26 2+26 2+26 2+26 2+26 2+26 2+26 2+26",
      "2+26 2+26 2+26 2+26 2+26 2+26 2+26 2+26 2+26 2+26 2+26 2+26 2+26 2+26 2+26 2+26 2+26 2+26",
      "2+26 2+26 2+26 2+26 2+26 2+26 2+26 2+26 2+26 2+26 2+26 2+26 2+26 2+26 2+26 2+26 2+26 2+26",
      "2+26 2+26 2+26 2+26 2+26 2+26 2+26 2+26 2+26 2+26 2+26 2+26 2+26 2+26 2+26 2+26 2+26 2+26",
      "2+26 2+26 2+26 2+26 2+26 2+26 2+26 2+26 2+26 2+26 2+26 2+26 2+26 2+26 2+26 2+26 2+26 2+26",
      "2+26 2+26 2+26 2+26"]⟩,
  ⟨["pp", "prepend"], [
      "1536+5 216 50 385+1 81 1132 66415 16 245+1 1916 2 249 74+5 701 444"]⟩,
  ⟨["ri", "regionalindicator"], [
      "127462+25"]⟩,
  ⟨["sm", "spacingmark"], [
      "2307 56 3+2 9+3 2+1 51+1 60+1 7+1 3+1 55 59+2 67 59+2 9 2+1 54+1 61 7+1 3+1 115 2+1 4+2 2+2",
      "53+2 62+3 62+1 59 2+1 2+1 3+1 2+1 40 15+1 60+1 6+2 2+2 54+1 77+1 7+6 20+1 64 128 139+1 64",
      "178 10+1 26+1 45 1681 31 130 8+7 2+1 347+3 3+2 5+1 2+5 225+1 59 2 22+5 146 55 2+4 2+1 62 31",
      "5+1 3 61 3+2 2 4+1 49+7 9+1 172 22 35628+1 3 89+1 51+15 143+1 48 49+1 5+1 3+2 111+1 3+1 25",
      "158 3+1 6 238+1 2+1 2+1 2 25620 2 128 46+2 5+1 116 25+1 60 49+2 10+1 14 94+2 4+1 2 171+2",
      "32+1 60 2+3 3+1 3+2 21+1 210+2 9+1 4 108+1 7 2+1 2 3 239+1 7+3 3 114+2 9+1 2 110 2+1 7 112",
      "262+2 10 249+4 2+1 5 3 2 143+2 9+3 5 85 30+1 63 408 15 107 8 3 214+4 5+1 2 351+1 13 49+1 9+1",
      "2 20496+54 105+1 24949 7"]⟩,
  ⟨["t"], [
      "4520+87 50636+48"]⟩,
  ⟨["v"], [
      "4448+71 50697+22"]⟩,
  ⟨["xx", "other"], [
      "32+94 34+12 2+593 113+274 8+262 46 2 3 3 2+55 7+9 12 2+45 22+15 2+100 9 7+1 3 5+32 2 2+29",
      "28+90 12+57 10+8 2+23 5 10 4 6+42 4+51 3+4 10+41 59+53 4 19 8+9 3+28 4+55 2 8+1 3+1 4+8 2+9",
      "3+25 2+1 4+55 2 6+3 3+1 4+2 2+29 3+2 2+10 4+55 2 9 4 4+19 3+21 7 4+55 2 8+1 3+1 4+6 4+9 3+29",
      "2+58 6+2 4 5+8 2+39 6+54 2 8 4 5+6 3+10 3+28 4+55 2 8 4 5+6 3+10 3+14 2+11 5+54 3 8 4 6+7",
      "2+9 3+28 4+69 2+3 7 2 9+17 3+60 2 9+11 9+97 2 11+10 8+72 3+26 2 2 2+3 3+48 21 3+4 12 37+8",
      "2+101 12 7+22 5+3 4+15 5+12 2 4+5 2+14 2+97 257+348 4+945 5+27 4+28 3+29 3+63 33+8 2+44",
      "6+116 3+33 2+117 13+3 13+218 6+56 11 2 2+1 25+1 2+47 32+48 6+46 18+37 10+11 4+29 14+55 15+47",
      "21+151 4 22+3 2+5 2+1 4+197 65+522 6+23 8+48 17+95 34+3069 4+140 2+95 33+553 7+104 3+30163 5",
      "11+31 3+79 3+271 2+2 2+3 2+22 6+3 2+82 3+49 19+25 19+12 2+37 9+24 14+11 30+2 5+46 15+35 2+66",
      "15+11 2+7 3+45 2+50 2 4+1 3+4 3 2+40 6+4 3+235 9 3+17 11173+11 24+3 50+8993 2+736 17+15",
      "17+206 2+157 3+79 13+512 2+225 2+148 6+1669 4 3+4 5+39 4+3 2+164 3+572 5+64 6+316 3+78 5+69",
      "12+48 5+121 4+52 16+40 2+1 3+9 5+44 12+1 2+3 2+9 2+49 4+35 15+15 3+43 2+11 4+47 15 3+4 5",
      "3+91 13+5 2+1 2+156 13+20 5+54 3 8+1 3+1 4+8 2+9 3+1 8+2 6+69 7+12 2 2 2+13 3+81 19+22 2+80",
      "21+234 8+1 10+26 3+81 18+105 14+100 4+1 11+255 16+244 7 3+1 10+140 8+1 8+2 2+27 11+39 13+7",
      "2+8 12+39 23+404 9 9+81 23 15+121 7+2 2 3 10+65 6 3 6+346 5+8 5+47 8+2 6+22 2+5332 18+5",
      "16+11463 13+2 4+2495 6+58 8+1047 2 56+6 5+80 2+10 3+19626 3 5+4699 47+1 24+541 6+2 23+1 8+29",
      "5+147 4+1978 56+3 51+7 2+13 2+21 6 16+1359 8 18+1 8 3 6+99 2+159 8+374 2+60 5+507 5+253",
      "3+735 8+108 8+2202 27+506 6+789503 4097+192511"]⟩,
  ⟨["zwj"], [
      "8205"]⟩]

/-- Word break classes. -/
def wordBreaks : List Table := [
  ⟨["cr"], [
      "13"]⟩,
  ⟨["dq", "doublequote"], [
      "34"]⟩,
  ⟨["ex", "extendnumlet"], [
      "95 8144 16+1 20 56799+1 25+2 240"]⟩,
  ⟨["extend"], [
      "768+111 276+6 264+44 2 2+1 2+1 2 73+10 49+20 17 102+6 3+5 3+1 2+3 36 31+26 92+10 59+8 10",
      "25+3 2+8 2+2 2+4 44+2 60+8 43+23 2+32 55+2 2+17 2+6 11+1 30+2 57 2+6 3+1 3+2 10 11+1 27 3+2",
      "57 2+4 5+1 3+2 4 31+1 4 12+2 57 2+7 2+2 2+2 21+1 23+5 2+2 57 2+6 3+1 3+2 8+2 11+1 31 60+4",
      "4+2 2+3 10 41+4 56 2+6 2+2 2+3 8+1 12+1 30+2 57 2+6 2+2 2+3 8+1 12+1 16 13+3 56+1 2+6 2+2",
      "2+3 10 11+1 30+2 71 5+5 2 2+7 19+1 62 3+6 13+7 99 3+8 12+6 74+1 28 2 2 5+1 50+19 2+1 6+10",
      "2+35 10 101+19 24+3 5+2 2+2 3+6 4+3 14+11 2 11+3 704+2 947+3 29+2 30+1 31+1 65+31 10 46+2 2",
      "118+1 35 119+11 5+11 220+4 58+9 2+28 3 49+30 50+4 48+16 39+8 13+2 31+12 57+13 49+19 153+2",
      "2+20 5 7 3+2 199+63 525 196+32 3071+2 142 97+31 555+5 106+1 30165+3 2+9 33+1 81+1 273 4 5",
      "24+4 5 84+1 51+17 27+17 14 39+7 26+12 45+3 48+13 37 68+13 13 9+1 46+2 51 2+2 3+1 6+1 2 42+4",
      "6+1 237+7 2+1 20273 738+15 17+15 367+1 606 227 150+4 1671+2 2+1 6+3 41+2 5 166+1 574+3 66+4",
      "318+1 80+3 71+10 50+3 123+2 54+14 42 3+1 11+3 46+10 8 62+2 37+13 17+1 45 13+2 49+13 9+3 2+1",
      "93+11 7 3 158+11 22+3 56+1 2+6 3+1 3+2 10 11+1 3+6 4+4 71+5 14 2 2 15+1 83+17 24 82+19 236+6",
      "3+8 28+1 83+16 107+12 102+14 257+14 246+5 2+1 3+3 2 2+1 142+6 3+6 4 29+9 41+6 2+3 9 10+10",
      "47+15 406+7 2+7 83+21 2+13 123+5 4 2+1 2+6 2 67+4 2+1 2+4 348+3 10+1 2 49+6 4+4 24 5350 7+14",
      "11465+11 4+2 2497+4 60+6 1049 2+54 8+3 82 12+1 19628+1 4706+45 3+22 543+4 4+5 9+7 3+6 31+3",
      "149+2 1980+54 5+49 9 15 23+4 2+14 1361+6 2+16 3+6 2+1 2+4 101 161+6 376 62+3 509+3 255+1",
      "737+6 110+6 2737+4 789537+95 129+239"]⟩,
  ⟨["fo", "format"], [
      "173 1363+5 23 193 50 385+1 81 3884 2048+1 27+4 50+4 2+9 56976 250+2 4290 16 9059+15 34913+3",
      "5328+7 798343"]⟩,
  ⟨["hl", "hebrewletter"], [
      "1488+26 5+3 62763 2+9 2+12 2+4 2 2+1 2+1 2+9"]⟩,
  ⟨["ka", "katakana"], [
      "12337+4 102+1 4+90 2+3 241+15 209+46 2+87 52239+55 45139+3 2+6 2+1 2 288+2 51 15+3"]⟩,
  ⟨["le", "aletter"], [
      "65+25 7+25 48 11 5 6+22 2+30 2+479 7+33 113+4 2+1 3+3 2 7 2+2 2 2+19 2+82 2+138 9+165 2+37",
      "3+3 2 2+40 2 105 45+42 36+1 2+98 2 16+1 8+1 11+2 3 17 2+29 30+88 12 25+32 10+1 5 6+21 5 10 4",
      "24+24 8+10 6+23 2+5 18+41 59+53 4 19 8+9 16+15 5+7 3+1 3+21 2+6 2 4+3 4 17 14+1 2+2 15+1 11",
      "9+5 5+1 3+21 2+6 2+1 2+1 2+1 32+3 2 20+2 17+8 2+2 2+21 2+6 2+1 2+4 4 19 16+1 24 12+7 3+1",
      "3+21 2+6 2+1 2+4 4 31+1 2+2 16 18 2+5 4+2 2+3 4+1 2 2+1 4+1 4+2 4+11 23 53+7 2+2 2+22 2+15 4",
      "27+2 3 3+1 31 5+7 2+2 2+22 2+9 2+4 4 32+1 2+1 16+1 18+8 2+2 2+40 3 17 6+2 9+2 25+5 6+17 4+23",
      "2+8 2 3+6 314 64+7 2+35 28+4 276+37 2 6 3+42 2+332 2+3 3+6 2 2+3 3+40 2+3 3+32 2+3 3+6 2 2+3",
      "3+14 2+56 2+3 3+66 38+15 17+85 3+5 4+619 3+16 2+25 6+74 4+10 8+17 14+18 15+17 15+12 2+2",
      "176+88 8+4 3+33 2 6+69 11+30 226+22 239+46 18+7 55+29 14+1 11+43 27+35 42+2 11+35 3+8 8+42",
      "3+2 42+3 2+5 2+1 4 6+191 65+277 3+5 3+37 3+5 3+7 2 2 2 2+30 3+52 2+6 2 4+2 2+6 4+3 3+5 5+12",
      "6+2 2+6 117 14 17+12 102 5 3+9 2 4+4 7 2 2 2+3 2+10 3+3 6+4 5 18+40 814+51 1815+228 7+3 4+1",
      "13+37 2 6 3+55 8 17+22 10+6 2+6 2+6 2+6 2+6 2+6 2+6 2+6 81 470 54+1 201+42 2+93 18+31",
      "28225+1164 68+45 3+268 4+15 11+1 21+46 17+30 3+79 25+194 6+1 2 2+4 25+15 2+2 2+3 2+22 30+51",
      "15+49 63+5 4 2+1 12+27 11+22 26+28 8+46 29 49+40 24+2 2+7 149+10 8+2 13+5 3+5 3+5 10+6 2+6",
      "2+57 7+114 30+11171 13+22 5+48 8965+6 13+4 57+97 34+362 19+63 3+53 41+11 117+4 2+134 37+25",
      "7+25 70+30 4+5 3+5 3+5 3+2 36+11 2+25 2+18 2+1 2+14 3+13 35+122 70+52 268+28 4+48 48+31",
      "14+29 6+37 11+29 3+35 5+7 2+4 43+157 19+35 5+35 5+39 9+51 13+10 2+14 2+6 2+1 2+10 2+14 2+6",
      "2+1 68+310 10+21 11+7 25+5 2+41 2+8 70+5 3 2+43 2+1 4 3+22 11+22 10+30 66+18 2+1 11+21 11+25",
      "71+55 7+1 65 16+3 2+2 2+28 43+28 4+28 36+7 2+27 28+53 11+21 11+18 14+17 111+72 56+50 14+50",
      "14+35 349+41 7+1 79+28 11 9+21 43+17 47+20 28+22 13+52 58+1 3 14+44 33+24 27+35 30 3 9+34 4",
      "13+47 15+3 22 2 36+17 2+24 20+1 64+6 2 2+3 2+14 2+9 8+46 39+7 3+1 3+21 2+6 2+1 2+4 4 19 13+4",
      "159+52 19+3 21+2 31+47 21+1 2 185+46 42+3 37+47 21 60+42 14 328+43 117+63 32+7 3 3+7 2+1",
      "2+23 16 2 95+7 3+38 17 2 29 11+39 8 22 12+45 20 19+72 264+8 2+36 18 50+29 113+6 2+1 2+37 22",
      "26+5 2+1 2+31 15 328+18 16 2+12 2+33 125 80+921 103+110 18+195 2637+96 16+1071 18+5 4026+582",
      "8634+568 8+30 18+78 18+29 19+47 17+3 32+20 6+18 689+63 129+74 6 67+12 65+1 2 19485+106 6+12",
      "4+8 8+9 5991+84 2+70 2+1 3 3+1 3+3 2+11 2 2+6 2+64 2+3 3+7 2+6 2+27 2+3 2+4 2 4+6 2+339 3+24",
      "2+24 2+30 2+24 2+30 2+24 2+30 2+24 2+30 2+24 2+7 1845+30 7+5 262+61 147+44 11+6 17 322+29",
      "19+43 485+27 757+6 2+3 2+1 2+14 2+196 60+67 8 1205+3 2+26 2+1 2 3 2+9 2+3 2 2 7 5 2 2 2+2",
      "2+1 2 3 2 2 2 2 2+1 2 3+3 2+6 2+3 2+3 2 2+9 2+16 6+2 2+4 2+16 629+25 7+25 7+25"]⟩,
  ⟨["lf"], [
      "10"]⟩,
  ⟨["mb", "midnumlet"], [
      "46 8170+1 11 56878 181 7"]⟩,
  ⟨["ml", "midletter"], [
      "58 125 720 472 149 6707 56812 66 197"]⟩,
  ⟨["mn", "midnum"], [
      "44 15 835 523 131+1 95 396 6220 56780 4 60 4 184 15"]⟩,
  ⟨["nl", "newline"], [
      "11+1 121 8099+1"]⟩,
  ⟨["nu", "numeric"], [
      "48+9 1575+9 2 133+9 199+9 413+9 119+9 119+9 119+9 119+9 119+9 119+9 119+9 119+9 119+9 97+9",
      "119+9 71+9 279+9 71+9 1863+9 39+9 301+9 129+9 167+9 7+9 183+9 87+9 135+9 7+9 35271+9 679+9",
      "39+9 199+9 23+9 87+9 407+9 21271+9 1415+9 2183+9 813+9 129+9 61+9 145+9 279+9 343+9 119+9",
      "375+9 103+9 103+9 423+9 103+9 759+9 247+9 71+9 423+9 19207+9 87+9 135+9 27765+49 2369+9",
      "423+9 503+9 1111+9 4759+9"]⟩,
  ⟨["ri", "regionalindicator"], [
      "127462+25"]⟩,
  ⟨["sq", "singlequote"], [
      "39"]⟩,
  ⟨["wsegspace"], [
      "32 5728 2432+6 2+2 85 4001"]⟩,
  ⟨["xx", "other"], [
      "0+9 5+17 2 2+3 2+3 2 2 13+4 27+3 2 27+9 2+35 2+1 2+6 2 2+1 2+4 24 32 481+5 152 3+1 7+5 6 2",
      "21 84 140 174 39+1 5 46+5 46 2 3 3 2+7 28+3 7+10 7+5 3+1 12 2+2 75 3 103 10 11 20+1 2+14",
      "61+1 102+13 55+1 2 2+1 2+1 47+17 29+3 12+4 25 7 3+4 206+1 11 20 9+1 3+1 23 8 2+2 5+1 10+1",
      "3+1 5+7 2+3 3 6+1 13+9 2 2+1 4 7+3 3+1 23 8 3 3 3+1 2 6+3 3+1 4+2 2+6 5 2+6 17+10 4 10 4 23",
      "8 3 6+1 11 4 4+1 2+14 5+1 11+8 8 4 9+1 3+1 23 8 3 6+1 10+1 3+1 4+6 4+3 3 6+1 11 2+15 3 7+2 4",
      "5+2 3 2 3+2 3+2 4+2 13+3 6+2 4 5+1 2+5 2+13 11+15 14 4 24 17+1 10 4 5+6 3 4+1 2+1 5+1 11+15",
      "5 9 4 24 11 6+1 10 4 5+6 3+5 3 5+1 11 4+11 14 4 52 4 6+4 5+6 6+1 11+9 7 4 19+2 25 10 2+1 8+2",
      "2+3 7 2 9+5 11+1 3+60 2+1 8+11 9 11+86 2+1 10+10 8 11+37 2+22 3+5 11+10 2 2 2+3 11 37+3 21",
      "19 37+8 2+99 21 11+11 5+3 4 4+1 8+2 5+12 13 16+1 39 2+4 2+1 44 334 5+1 8 2 5+1 42 5+1 34 5+1",
      "8 2 5+1 16 58 5+1 68+1 4+31 17+15 87+1 7+2 621+1 45+4 76+2 12+6 23+8 23+10 21+11 14 4 3+63",
      "33+8 2+1 11+32 16+5 90+6 44+4 71+9 32 13+3 13+9 11+127 11+37 29+56 11 30+1 12+5 11+21 32+48",
      "78+2 11+16 10+11 117+11 57+7 11+2 50+1 10+6 44+1 4+15 4 40+4 535+1 7+1 39+1 7+1 9 2 2 2 32+1",
      "54 8 2+2 4 8+2 5+1 7+3 14+4 4 8+2 8 4 5+7 3+9 2+1 10+14 3+2 2+14 2+9 7 11 2+12 2+15 14+50",
      "34+16 2+3 2+1 11 2+2 6+5 2 2 2 5 12+1 5+4 6+3 2+16 42+812 53+1813 230+5 10+11 39 2+4 2+1",
      "57+6 2+14 25+8 8 8 8 8 8 8 8 8 33+46 2+463 2+3 2+35 7 6+4 3+91 5+2 92 5+4 44 95+16 33+47",
      "17+207 48 89+27815 1166+66 47+1 270+2 29+19 52 11 116+21 196+4 3 2 6+23 55+3 2+18 53+11 71+9",
      "11+5 25+2 2 50+1 37+11 30+2 66+13 12+10 2+9 11+5 56+8 15+1 11+32 4+49 2 4+1 3+4 3 2+29 17+1",
      "6+9 7+1 7+1 7+8 8 8 59+5 124 3+1 11+5 11173+11 24+3 50+8963 8+11 6+4 13 14 6 2 3 3 109+32",
      "364+17 65+1 55+39 13+3 18+1 3+10 17+2 3+23 5 2 3+25 6 136+1 2+6 2+3 2 2 13+4 27+3 2 27+10",
      "90+2 7+1 7+1 7+1 4+27 4+3 13 27 20 3 16+1 15+33 124+68 54+135 2+129 30+2 50+14 2+30 33+12",
      "31+4 44+4 31+1 37+3 9 6+41 159+1 11+5 37+3 37+3 41+7 53+11 12 16 8 3 12 16 8 3+66 312+8 23+9",
      "9+23 7 43 10+68 7+1 2 45 3+2 2+1 24+9 24+8 32+64 20 3+9 23+9 27+69 57+5 3+63 5 3+4 9 4 30+1",
      "4+3 2+31 30+2 30+34 9 31+24 55+9 23+9 20+12 19+109 74+54 52+12 52+12 41+7 11+46 6+273 43 3+2",
      "3+73 34+9 2+7 34+30 23+41 22+26 24+8 72+30 17+8 61+1 2+3 2+9 2+1 26+6 11+5 54 11+3 5+7 37+1",
      "2+8 70+3 5 14 2+34 19 38+5 5+61 8 2 5 16 11+6 60+4 11+5 5 9+1 3+1 23 8 3 6 11+1 3+1 4+1 2+5",
      "2+4 8+1 8+2 6+69 7+12 2 2 2+13 3+28 76+4 11+3 5+29 71 2+7 11+165 55+1 10+22 7+33 66+2 2+10",
      "11+37 58+6 11+82 16+3 11+197 60+100 75+20 9+1 2+1 9 3 31 3+1 10+11 11+69 9+1 47+1 9 3+26",
      "64+7 2+7 75+2 2+17 74+262 10 46 10+14 11+23 31+1 23 15+72 8 3 45+2 2 3 10+7 11+5 7 3 38 3",
      "7+6 11+309 24+8 18 42+2 6+12 12+84 2+78 923+101 112+16 197+2635 98+14 1111+4009 584+6870",
      "13+2 4+1743 570+6 32 11+5 80 11+5 31+1 6+10 56+8 5+11 11+8 22+4 20+687 65+127 76+3 58+6",
      "18+63 3 3+10 3+16381 5 8 3 2+286 4+49 2+13 5+2711 108+4 14+2 10+6 11+2 3 5+4699 47+1 24+541",
      "6+2 23+1 8+29 5+147 4+442 86 72 3+1 2+1 3+1 5 13 2 8 66 5+1 9 8 29 5 6 2+2 8 341+1 26 26 32",
      "26 32 26 32 26 32 26 9+1 51+511 56+3 51+7 2+13 2+21 6 16+1103 32+5 7+212 8 18+1 8 3 6+4",
      "63+32 2+111 46+2 15+1 11+3 2+320 32+16 59+469 43+243 3+495 8 5 3 16 198+10 8+40 77+3 11+1189",
      "5 28 3 2+1 2 11 5 2 2+5 2+3 2 2 2 4 3 2+1 2 2 2 2 2 3 2+1 5 8 5 5 2 11 18+4 4 6 18+627 27+5",
      "27+5 27+91 27+506 6+2031 11+787462 2+29 97+127 241+196111"]⟩,
  ⟨["zwj"], [
      "8205"]⟩]

/-- Sentence break classes. -/
def sentenceBreaks : List Table := [
  ⟨["at", "aterm"], [
      "46 8182 56878 188"]⟩,
  ⟨["cl", "close"], [
      "34 5+2 50 2 30 2 46 16 3711+3 1886+1 2428+7 26+1 11+1 55+1 15+1 634+3 30+1 1073+5 8+13 80+1",
      "32+9 404+21 64+3 33+1 1027+13 15+1 3+9 25 19+7 428+9 3+7 2+2 52511+1 216+1 29+15 3+1 17+5",
      "170+1 50 2 30 2 2+1 2+1 63251+2"]⟩,
  ⟨["cr"], [
      "13"]⟩,
  ⟨["ex", "extend"], [
      "768+111 276+6 264+44 2 2+1 2+1 2 73+10 49+20 17 102+6 3+5 3+1 2+3 36 31+26 92+10 59+8 10",
      "25+3 2+8 2+2 2+4 44+2 60+8 43+23 2+32 55+2 2+17 2+6 11+1 30+2 57 2+6 3+1 3+2 10 11+1 27 3+2",
      "57 2+4 5+1 3+2 4 31+1 4 12+2 57 2+7 2+2 2+2 21+1 23+5 2+2 57 2+6 3+1 3+2 8+2 11+1 31 60+4",
      "4+2 2+3 10 41+4 56 2+6 2+2 2+3 8+1 12+1 30+2 57 2+6 2+2 2+3 8+1 12+1 16 13+3 56+1 2+6 2+2",
      "2+3 10 11+1 30+2 71 5+5 2 2+7 19+1 62 3+6 13+7 99 3+8 12+6 74+1 28 2 2 5+1 50+19 2+1 6+10",
      "2+35 10 101+19 24+3 5+2 2+2 3+6 4+3 14+11 2 11+3 704+2 947+3 29+2 30+1 31+1 65+31 10 46+2 2",
      "118+1 35 119+11 5+11 220+4 58+9 2+28 3 49+30 50+4 48+16 39+8 13+2 31+12 57+13 49+19 153+2",
      "2+20 5 7 3+2 199+63 525+1 195+32 3071+2 142 97+31 555+5 106+1 30165+3 2+9 33+1 81+1 273 4 5",
      "24+4 5 84+1 51+17 27+17 14 39+7 26+12 45+3 48+13 37 68+13 13 9+1 46+2 51 2+2 3+1 6+1 2 42+4",
      "6+1 237+7 2+1 20273 738+15 17+15 367+1 606 227 150+4 1671+2 2+1 6+3 41+2 5 166+1 574+3 66+4",
      "318+1 80+3 71+10 50+3 123+2 54+14 42 3+1 11+3 46+10 8 62+2 37+13 17+1 45 13+2 49+13 9+3 2+1",
      "93+11 7 3 158+11 22+3 56+1 2+6 3+1 3+2 10 11+1 3+6 4+4 71+5 14 2 2 15+1 83+17 24 82+19 236+6",
      "3+8 28+1 83+16 107+12 102+14 257+14 246+5 2+1 3+3 2 2+1 142+6 3+6 4 29+9 41+6 2+3 9 10+10",
      "47+15 406+7 2+7 83+21 2+13 123+5 4 2+1 2+6 2 67+4 2+1 2+4 348+3 10+1 2 49+6 4+4 24 5350 7+14",
      "11465+11 4+2 2497+4 60+6 1049 2+54 8+3 82 12+1 19628+1 4706+45 3+22 543+4 4+5 9+7 3+6 31+3",
      "149+2 1980+54 5+49 9 15 23+4 2+14 1361+6 2+16 3+6 2+1 2+4 101 161+6 376 62+3 509+3 255+1",
      "737+6 110+6 792278+95 129+239"]⟩,
  ⟨["fo", "format"], [
      "173 1363+5 23 193 50 385+1 81 3884 2045 3+1 27+4 50+4 2+9 56976 250+2 4290 16 9059+15",
      "34913+3 5328+7 798343"]⟩,
  ⟨["le", "oletter"], [
      "443 5+3 209 37+6 7+11 27 2 134 485 119+26 5+4 45+42 36+1 2+98 2 16+1 8+1 11+2 3 17 2+29",
      "30+88 12 25+32 10+1 5 6+21 5 10 4 24+24 8+10 6+23 2+5 18+41 59+53 4 19 8+9 16+15 5+7 3+1",
      "3+21 2+6 2 4+3 4 17 14+1 2+2 15+1 11 9+5 5+1 3+21 2+6 2+1 2+1 2+1 32+3 2 20+2 17+8 2+2 2+21",
      "2+6 2+1 2+4 4 19 16+1 24 12+7 3+1 3+21 2+6 2+1 2+4 4 31+1 2+2 16 18 2+5 4+2 2+3 4+1 2 2+1",
      "4+1 4+2 4+11 23 53+7 2+2 2+22 2+15 4 27+2 3 3+1 31 5+7 2+2 2+22 2+9 2+4 4 32+1 2+1 16+1 18+8",
      "2+2 2+40 3 17 6+2 9+2 25+5 6+17 4+23 2+8 2 3+6 59+47 2+1 13+6 59+1 2 2+4 2+23 2 2+9 2+1 10",
      "3+4 2 22+3 33 64+7 2+35 28+4 116+42 21 17+5 5+3 4 4+1 8+2 5+12 13 66+42 3+331 2+3 3+6 2 2+3",
      "3+40 2+3 3+32 2+3 3+6 2 2+3 3+14 2+56 2+3 3+66 38+15 114+619 3+16 2+25 6+74 4+10 8+17 14+18",
      "15+17 15+12 2+2 16+51 36 5 68+88 8+4 3+33 2 6+69 11+30 50+29 3+4 12+43 5+25 55+22 10+52 83",
      "94+46 18+7 55+29 14+1 11+43 27+35 42+2 11+35 19+42 3+2 42+3 2+5 2+1 4 1083+3 72+2 3+3",
      "2984+55 8 17+22 10+6 2+6 2+6 2+6 2+6 2+6 2+6 2+6 81 470+2 26+8 8+4 3+4 5+85 7+2 2+89 2+3",
      "6+42 2+93 18+31 49+15 513+6591 65+22156 68+45 3+268 4+15 11+1 67 17 33+79 40+8 105 7 104 4+6",
      "2+2 2+3 2+22 30+51 15+49 63+5 4 2+1 12+27 11+22 26+28 8+46 29 17+4 2+9 11+4 2+40 24+2 2+7",
      "21+22 4 4+49 2 4+1 3+4 3 2 25+2 3+10 8+2 13+5 3+5 3+5 10+6 2+6 146+34 30+11171 13+22 5+48",
      "8453+365 3+105 68 2+9 2+12 2+4 2 2+1 2+1 2+107 34+362 19+63 3+53 41+11 117+4 2+134 106+55",
      "3+30 4+5 3+5 3+5 3+2 36+11 2+25 2+18 2+1 2+14 3+13 35+122 70+52 268+28 4+48 48+31 14+29 6+37",
      "11+29 3+35 5+7 2+4 123+77 99+39 9+51 157+310 10+21 11+7 26+1 126+5 3 2+43 2+1 4 3+22 11+22",
      "10+30 66+18 2+1 11+21 11+25 71+55 7+1 65 16+3 2+2 2+28 43+28 4+28 36+7 2+27 28+53 11+21",
      "11+18 14+17 111+72 184+35 349+41 7+1 79+28 11 9+21 43+17 47+20 28+22 13+52 58+1 3 14+44",
      "33+24 27+35 30 3 9+34 4 13+47 15+3 22 2 36+17 2+24 20+1 64+6 2 2+3 2+14 2+9 8+46 39+7 3+1",
      "3+21 2+6 2+1 2+4 4 19 13+4 159+52 19+3 21+2 31+47 21+1 2 185+46 42+3 37+47 21 60+42 14 72+26",
      "38+6 186+43 212+7 3 3+7 2+1 2+23 16 2 95+7 3+38 17 2 29 11+39 8 22 12+45 20 19+72 264+8 2+36",
      "18 50+29 113+6 2+1 2+37 22 26+5 2+1 2+31 15 328+18 16 2+12 2+33 125 80+921 103+110 18+195",
      "2637+96 16+1071 18+5 4026+582 8634+568 8+30 18+78 18+29 19+47 17+3 32+20 6+18 881+74 6 67+12",
      "65+1 2 29+6135 9+1237 43+8 8936+3 2+6 2+1 2+290 16 30+2 3 15+3 9+395 2309+106 6+12 4+8 8+9",
      "8817 502+44 11+6 17 322+29 19+43 485+27 757+6 2+3 2+1 2+14 2+196 135 1205+3 2+26 2+1 2 3 2+9",
      "2+3 2 2 7 5 2 2 2+2 2+1 2 3 2 2 2 2 2+1 2 3+3 2+6 2+3 2+3 2 2+9 2+16 6+2 2+4 2+16 4421+42719",
      "33+4153 7+221 3+5761 15+7472 3104+541 1507+4938 6+4191"]⟩,
  ⟨["lf"], [
      "10"]⟩,
  ⟨["lo", "lower"], [
      "97+25 48 11 5 37+23 2+7 2 2 2 2 2 2 2 2 2 2 2 2 2 2 2 2 2 2 2 2 2 2 2 2 2 2 2 2+1 2 2 2 2 2",
      "2 2 2+1 2 2 2 2 2 2 2 2 2 2 2 2 2 2 2 2 2 2 2 2 2 2 2 3 2 2+2 3 2 3 4+1 5 3 4+2 3 3 2 2 3",
      "2+1 2 3 4 2 3+1 3+2 7 3 3 2 2 2 2 2 2 2 2+1 2 2 2 2 2 2 2 2 2+1 3 2 4 2 2 2 2 2 2 2 2 2 2 2",
      "2 2 2 2 2 2 2 2 2 2 2 2 2 2 2 2 2 2+6 3 3+1 2 5 2 2 2 2+68 2+35 8+1 31+4 141 2 4 3+3 19",
      "28+34 2+1 4+2 2 2 2 2 2 2 2 2 2 2 2 2+4 2 3 3+1 52+47 2 2 2 2 2 2 2 2 2 2 2 2 2 2 2 2 2 10 2",
      "2 2 2 2 2 2 2 2 2 2 2 2 2 2 2 2 2 2 2 2 2 2 2 2 2 3 2 2 2 2 2 2+1 2 2 2 2 2 2 2 2 2 2 2 2 2",
      "2 2 2 2 2 2 2 2 2 2 2 2 2 2 2 2 2 2 2 2 2 2 2 2 2 2 2 2 2 2 2 2 2 2 2 49+40 2932 764+5",
      "2179+8 120+191 66 2 2 2 2 2 2 2 2 2 2 2 2 2 2 2 2 2 2 2 2 2 2 2 2 2 2 2 2 2 2 2 2 2 2 2 2 2",
      "2 2 2 2 2 2 2 2 2 2 2 2 2 2 2 2 2 2 2 2 2 2 2 2 2 2 2 2 2 2 2 2 2 2 2 2 2+8 2 2 2 2 2 2 2 2",
      "2 2 2 2 2 2 2 2 2 2 2 2 2 2 2 2 2 2 2 2 2 2 2 2 2 2 2 2 2 2 2 2 2 2 2 2 2 2 2 2 2+8 9+5 11+7",
      "9+7 9+5 11+7 9+7 9+13 3+7 9+7 9+7 9+4 2+1 7 4+2 2+1 9+3 3+1 9+7 11+2 2+1 122 14 17+12 110",
      "4+1 4 28 5 5 3+1 9+3 5 34+15 5 844+25 1863+47 2 4+1 2 2 2 5 2+1 2+7 4 2 2 2 2 2 2 2 2 2 2 2",
      "2 2 2 2 2 2 2 2 2 2 2 2 2 2 2 2 2 2 2 2 2 2 2 2 2 2 2 2 2 2 2 2 2 2 2 2 2 2+1 8 2 5 13+37 2",
      "6 30996 2 2 2 2 2 2 2 2 2 2 2 2 2 2 2 2 2 2 2 2 2 2 20 2 2 2 2 2 2 2 2 2 2 2 2 2+2 134 2 2 2",
      "2 2 2+2 2 2 2 2 2 2 2 2 2 2 2 2 2 2 2 2 2 2 2 2 2 2 2 2 2 2 2 2 2 2 2+9 2 2 3 2 2 2 2 5 2 3",
      "2+2 2 2 2 2 2 2 2 2 2 2 6 6 2 2 2 2 2 2 2 5 2 7 2 2 2 2 25+2 2 2+2 822+42 2+13 7+79 20289+6",
      "13+4 1066+25 1230+39 137+35 156+10 2+14 2+6 2+1 452 3+2 2+41 2+8 1286+50 3022+31 21889+31",
      "26011+25 27+6 2+17 27+25 27+3 2 2+6 2+10 27+25 27+25 27+25 27+25 27+25 27+25 27+25 27+25",
      "27+27 29+24 2+5 27+24 2+5 27+24 2+5 27+24 2+5 27+24 2+5 2 1845+9 2+19 7+5 262+61 2229+33"]⟩,
  ⟨["nu", "numeric"], [
      "48+9 1575+9 2+1 132+9 199+9 413+9 119+9 119+9 119+9 119+9 119+9 119+9 119+9 119+9 119+9 97+9",
      "119+9 71+9 279+9 71+9 1863+9 39+9 301+9 129+9 167+9 7+9 183+9 87+9 135+9 7+9 35271+9 679+9",
      "39+9 199+9 23+9 87+9 407+9 21271+9 1415+9 2183+9 813+9 129+9 61+9 145+9 279+9 343+9 119+9",
      "375+9 103+9 103+9 423+9 103+9 759+9 247+9 71+9 423+9 19207+9 87+9 135+9 27765+49 2369+9",
      "423+9 503+9 1111+9 4759+9"]⟩,
  ⟨["sc", "scontinue"], [
      "44+1 13 1315 175+1 491 4106 6 2059+1 4077 52751+1 2 30+1 30+1 4 3 11 169+1 13 74"]⟩,
  ⟨["se", "sep"], [
      "133 8099+1"]⟩,
  ⟨["sp"], [
      "9 2+1 20 128 5600 2432+10 37 48 4001"]⟩,
  ⟨["st", "sterm"], [
      "33 30 1354 148+2 181 44+2 247 62 2 4+1 294+1 1765+1 791 5+1 774 199+1 205 6 315+1 355+3",
      "175+1 3+1 30+1 189+1 66+1 957+1 10+2 3557 14 23+1 430 29949 271+1 228 4 383+1 87+1 96 153+1",
      "148+2 145+1 250 21099+1 170 30 66 2805+1 1278+4 45+3 190+1 118+3 128+2 130+1 7 17+1 89+1 2+1",
      "109 418+1 374+1 6+14 106+1 250+2 518 2 252+1 88+1 421+1 693+1 75+1 19242+1 134 66+1 12 852",
      "19975 7657"]⟩,
  ⟨["up", "upper"], [
      "65+25 102+22 2+6 34 2 2 2 2 2 2 2 2 2 2 2 2 2 2 2 2 2 2 2 2 2 2 2 2 2 2 2 3 2 2 2 2 2 2 2 3",
      "2 2 2 2 2 2 2 2 2 2 2 2 2 2 2 2 2 2 2 2 2 2 2+1 2 2 4+1 2 2+1 2+2 3+3 2+1 2+2 4+1 2+1 2 2",
      "2+1 2 3 2+1 2+2 2 2+1 4 8+1 2+1 2+1 2 2 2 2 2 2 2 2 3 2 2 2 2 2 2 2 2 3+1 2 2+2 2 2 2 2 2 2",
      "2 2 2 2 2 2 2 2 2 2 2 2 2 2 2 2 2 2 2 2 2 2 2 8+1 2+1 3 2+3 2 2 2 2 290 2 4 9 7 2+2 2 2+1",
      "2+16 2+8 36 3+2 4 2 2 2 2 2 2 2 2 2 2 2 6 3 2+1 3+50 49 2 2 2 2 2 2 2 2 2 2 2 2 2 2 2 2 10 2",
      "2 2 2 2 2 2 2 2 2 2 2 2 2 2 2 2 2 2 2 2 2 2 2 2 2 2+1 2 2 2 2 2 2 3 2 2 2 2 2 2 2 2 2 2 2 2",
      "2 2 2 2 2 2 2 2 2 2 2 2 2 2 2 2 2 2 2 2 2 2 2 2 2 2 2 2 2 2 2 2 2 2 2 3+37 2890+37 2 6",
      "723+85 2571 2 2 2 2 2 2 2 2 2 2 2 2 2 2 2 2 2 2 2 2 2 2 2 2 2 2 2 2 2 2 2 2 2 2 2 2 2 2 2 2",
      "2 2 2 2 2 2 2 2 2 2 2 2 2 2 2 2 2 2 2 2 2 2 2 2 2 2 2 2 2 2 2 2 2 2 10 2 2 2 2 2 2 2 2 2 2 2",
      "2 2 2 2 2 2 2 2 2 2 2 2 2 2 2 2 2 2 2 2 2 2 2 2 2 2 2 2 2 2 2 2 2 2 2 2 2 10+7 9+5 11+7 9+7",
      "9+5 12 2 2 2 9+7 25+7 9+7 9+7 9+4 12+4 12+3 13+4 12+4 262 5 4+2 3+2 3 4+4 7 2 2 2+3 3+3 11+1",
      "6 27+15 20 819+25 1841+47 49 2+2 3 2 2 2+3 2 3 9+2 2 2 2 2 2 2 2 2 2 2 2 2 2 2 2 2 2 2 2 2 2",
      "2 2 2 2 2 2 2 2 2 2 2 2 2 2 2 2 2 2 2 2 2 2 2 2 2 2 2 2 9 2 5 31054 2 2 2 2 2 2 2 2 2 2 2 2",
      "2 2 2 2 2 2 2 2 2 2 20 2 2 2 2 2 2 2 2 2 2 2 2 2 136 2 2 2 2 2 2 4 2 2 2 2 2 2 2 2 2 2 2 2 2",
      "2 2 2 2 2 2 2 2 2 2 2 2 2 2 2 2 2 11 2 2+1 2 2 2 2 5 2 3 2 4 2 2 2 2 2 2 2 2 2 2+4 2+4 2 2 2",
      "2 2 2 2 2+3 2 7 6 2 29 22316+25 1222+39 137+35 157+10 2+14 2+6 2+1 1771+50 3054+31 21889+31",
      "26017+25 27+25 27+25 27 2+1 3 3+1 3+3 2+7 27+25 27+1 2+3 3+7 2+6 28+1 2+3 2+4 2 4+6 28+25",
      "27+25 27+25 27+25 27+25 27+25 31+24 34+24 34+24 34+24 34+24 34 4406+33 2063+25 7+25 7+25"]⟩,
  ⟨["xx", "other"], [
      "0+8 6+17 4+3 4+1 4 12+3 2 28 2+2 28 2+6 2+25 2+8 3 2+6 2+3 3+3 24 32 459+3 13+13 6+6 2 2+16",
      "118 3+1 5 2+5 2 4 2 21 84 140 174 39+1 2+2 2+1 43+6 46 2 3 3 2+7 28+3 6+11 7+5 3+1 12 79 3",
      "113 11 20+1 5+11 61+1 102+13 55+1 4+1 2+1 47+8 2 2+2 3 29+3 12+4 25 7 3+4 218 20 9+1 3+1 23",
      "8 2+2 5+1 10+1 3+1 5+7 2+3 3 6+1 13+9 2 2+1 4 7+3 3+1 23 8 3 3 3+1 2 6+3 3+1 4+2 2+6 5 2+6",
      "17+10 4 10 4 23 8 3 6+1 11 4 4+1 2+14 5+1 11+8 8 4 9+1 3+1 23 8 3 6+1 10+1 3+1 4+6 4+3 3 6+1",
      "11 2+15 3 7+2 4 5+2 3 2 3+2 3+2 4+2 13+3 6+2 4 5+1 2+5 2+13 11+15 14 4 24 17+1 10 4 5+6 3",
      "4+1 2+1 5+1 11+15 5 9 4 24 11 6+1 10 4 5+6 3+5 3 5+1 11 4+11 14 4 52 4 6+4 5+6 6+1 11+9 7 4",
      "19+2 25 10 2+1 8+2 2+3 7 2 9+5 11+1 3+12 59+4 16 11+38 3 2 6 25 2 24+1 6 2 8 11+1 5+31 2+22",
      "3+5 11+10 2 2 16 37+3 21 19 37+8 2+56 77+3 79+1 39 2+4 2+1 44 334 5+1 8 2 5+1 42 5+1 34 5+1",
      "8 2 5+1 16 58 5+1 68+1 4+1 2+3 3+22 17+15 87+1 7+2 621 48+2 76+2 12+6 23+8 25+8 21+11 14 4",
      "3+11 85+2 2+3 3+1 11+23 3+3 3 16+5 90+6 44+4 71+9 32 13+3 13+7 43+1 6+10 45+3 27+5 11+37",
      "29+3 64 30+1 12+5 11+12 6+3 32+48 78+2 13+1 3+10 10+8 3 117+11 57+2 3+2 11+2 61+6 44+1 4+15",
      "4 40+4 535+1 7+1 39+1 7+1 9 2 2 2 32+1 54 8 2+2 4 8+2 5+1 7+3 14+4 4 8+2 17+2 3+2 9+3 2+2",
      "9+8 3 3+6 6+20 7 11 2+10 4+12 3 14+50 34+16 2+3 2+1 11 2+2 6+5 2 2 2 5 12+1 5+4 6+3 2+16",
      "42+382 5+28 3+394 53+624 7+6 15+78 3+30 11+402 23+62 5+31 3+513 230+5 10+11 39 2+4 2+1 57+6",
      "2+14 25+8 8 8 8 8 8 8 8 8 47+13 3+1 11+3 3+11 2+4 2+15 11+418 4+1 14+1 9 4 16 6+1 6+3 87+1",
      "3+1 4 91 5+4 44 95+16 33+47 17+511 6593+63 22158+66 47 271 31+19 52 11 116 2+2 2+30 10+1",
      "104+1 65+4 3 2 6+23 55+3 2+18 53+1 3+7 71+7 13+5 25+2 2 50 38+11 30+2 66+6 3+4 12+5 32 56+8",
      "15+1 11+2 27+2 74+23 4+1 24+9 7+1 7+1 7+8 8 8 44 15+5 127+1 11+5 11173+11 24+3 50+8451 367+1",
      "107+37 8+11 6+4 13 14 6 2 3 3 109+32 366+15 65+1 55+39 13+3 19 2+2 3+6 17 3+1 17+1 3+6 4+1",
      "11+3 2+11 6 136+1 2 2+5 3+1 4 12+3 2 28 2+2 28 2 7 90+2 7+1 7+1 7+1 4+27 4+3 13 27 20 3 16+1",
      "15+33 124+68 54+135 2+129 30+2 50+14 2+30 33+12 31+4 44+4 31+1 37+3 9 6+41 159+1 11+5 37+3",
      "37+3 41+7 53+11 12 16 8 3 12 16 8 3+66 312+8 23+9 9+23 7 43 10+68 7+1 2 45 3+2 2+1 24+9 24+8",
      "32+64 20 3+9 23+9 27+69 57+5 3+63 5 3+4 9 4 30+1 4+3 2+21 3+7 30+2 30+34 9 31+24 55+9 23+9",
      "20+12 19+109 74+54 52+12 52+12 41+7 11+46 6+273 43 3+2 3+73 34+9 2+7 34+3 6+21 27+37 22+26",
      "24+8 74+28 17+8 61+1 7+9 2+1 26+6 11+5 54 11 8+7 37+1 2+8 72+1 19 2 3+31 19 40 3 5+61 8 2 5",
      "16 12+5 60+4 11+5 5 9+1 3+1 23 8 3 6 11+1 3+1 4+1 2+5 2+4 8+1 8+2 6+69 7+12 2 2 2+13 3+28",
      "78+2 11+3 5+29 71 2+7 11+165 55+1 10 3+4 22+33 68 2+10 11+37 58+6 11+53 28+1 16+3 11+1 4",
      "8+184 60+100 75+20 9+1 2+1 9 3 31 3+1 11 2+8 11+69 9+1 47+1 9 3+26 64+2 3+2 2+7 75 4+17",
      "74+262 10 46 12+12 11+23 31+1 23 15+72 8 3 45+2 2 3 10+7 11+5 7 3 38 3 7+6 11+309 26+6 18",
      "42+2 8+10 12+84 2+78 923+101 112+16 197+2635 98+14 1111+4009 584+6870 13+2 4+1743 570+6 32",
      "11+3 82 11+5 31+1 7+9 58+6 6+10 11+8 22+4 20+687 65+23 2+102 76+3 58+6 18+63 3 3+10 3+13",
      "6137+7 1239+41 10+8934 5 8 3 292+14 2+28 4+1 2+13 5+7 397+2307 108+4 14+2 10+6 11+2 8+4699",
      "47+1 24+541 6+2 23+1 8+29 5+147 4+442 86 72 3+1 2+1 3+1 5 13 2 8 66 5+1 9 8 29 5 6 2+2 8",
      "341+1 26 26 32 26 32 26 32 26 32 26 9+1 51+511 56+3 51+7 2+13 2+2 2+17 6 16+1103 32+5 7+212",
      "8 18+1 8 3 6+4 63+32 2+111 46+2 15+1 11+3 2+320 32+16 59+469 43+243 3+495 8 5 3 16 198+10",
      "8+40 77+3 11+1189 5 28 3 2+1 2 11 5 2 2+5 2+3 2 2 2 4 3 2+1 2 2 2 2 2 3 2+1 5 8 5 5 2 11",
      "18+4 4 6 18+627 27+5 27+5 27+1259 4+1398 11+1029 42721+31 4155+5 223+1 5763+13 7474+3102",
      "543+1505 4940+4 4193+711760 2+29 97+127 241+196111"]⟩]

end RuleTree.Unicode
