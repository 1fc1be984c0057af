import ChequeTeller.Text.Stretches

/-!
The characters that domain names are spelled with, and how others are spelled with them: capital
letters as small ones, wide and ornamental forms as plain ones, and some as nothing at all.
-/

namespace ChequeTeller.Url.Domain.Alphabet

open Text

def letters : Stretches := .ofLines [
  "0 41 5B 80 A1 A8 A9 AA AB AD AE AF B0 B2 B6 B8 BB BC BF C0 D7 D8 DF 100 101 102 103 104 105",
  "106 107 108 109 10A 10B 10C 10D 10E 10F 110 111 112 113 114 115 116 117 118 119 11A 11B 11C",
  "11D 11E 11F 120 121 122 123 124 125 126 127 128 129 12A 12B 12C 12D 12E 12F 130 131 132 135",
  "136 137 139 13A 13B 13C 13D 13E 13F 142 143 144 145 146 147 148 149 14B 14C 14D 14E 14F 150",
  "151 152 153 154 155 156 157 158 159 15A 15B 15C 15D 15E 15F 160 161 162 163 164 165 166 167",
  "168 169 16A 16B 16C 16D 16E 16F 170 171 172 173 174 175 176 177 178 17A 17B 17C 17D 17E 17F",
  "180 181 183 184 185 186 188 189 18C 18E 192 193 195 196 199 19C 19E 19F 1A1 1A2 1A3 1A4 1A5",
  "1A6 1A8 1A9 1AA 1AC 1AD 1AE 1B0 1B1 1B4 1B5 1B6 1B7 1B9 1BC 1BD 1C4 1CE 1CF 1D0 1D1 1D2 1D3",
  "1D4 1D5 1D6 1D7 1D8 1D9 1DA 1DB 1DC 1DE 1DF 1E0 1E1 1E2 1E3 1E4 1E5 1E6 1E7 1E8 1E9 1EA 1EB",
  "1EC 1ED 1EE 1EF 1F1 1F5 1F6 1F9 1FA 1FB 1FC 1FD 1FE 1FF 200 201 202 203 204 205 206 207 208",
  "209 20A 20B 20C 20D 20E 20F 210 211 212 213 214 215 216 217 218 219 21A 21B 21C 21D 21E 21F",
  "220 221 222 223 224 225 226 227 228 229 22A 22B 22C 22D 22E 22F 230 231 232 233 23A 23C 23D",
  "23F 241 242 243 247 248 249 24A 24B 24C 24D 24E 24F 2B0 2B9 2D8 2DE 2E0 2E5 340 342 343 346",
  "34F 350 370 371 372 373 374 375 376 377 378 37B 37E 390 391 3AC 3CF 3D7 3D8 3D9 3DA 3DB 3DC",
  "3DD 3DE 3DF 3E0 3E1 3E2 3E3 3E4 3E5 3E6 3E7 3E8 3E9 3EA 3EB 3EC 3ED 3EE 3EF 3F0 3F3 3F4 3F6",
  "3F7 3F8 3F9 3FB 3FD 430 460 461 462 463 464 465 466 467 468 469 46A 46B 46C 46D 46E 46F 470",
  "471 472 473 474 475 476 477 478 479 47A 47B 47C 47D 47E 47F 480 481 48A 48B 48C 48D 48E 48F",
  "490 491 492 493 494 495 496 497 498 499 49A 49B 49C 49D 49E 49F 4A0 4A1 4A2 4A3 4A4 4A5 4A6",
  "4A7 4A8 4A9 4AA 4AB 4AC 4AD 4AE 4AF 4B0 4B1 4B2 4B3 4B4 4B5 4B6 4B7 4B8 4B9 4BA 4BB 4BC 4BD",
  "4BE 4BF 4C0 4C2 4C3 4C4 4C5 4C6 4C7 4C8 4C9 4CA 4CB 4CC 4CD 4CE 4D0 4D1 4D2 4D3 4D4 4D5 4D6",
  "4D7 4D8 4D9 4DA 4DB 4DC 4DD 4DE 4DF 4E0 4E1 4E2 4E3 4E4 4E5 4E6 4E7 4E8 4E9 4EA 4EB 4EC 4ED",
  "4EE 4EF 4F0 4F1 4F2 4F3 4F4 4F5 4F6 4F7 4F8 4F9 4FA 4FB 4FC 4FD 4FE 4FF 500 501 502 503 504",
  "505 506 507 508 509 50A 50B 50C 50D 50E 50F 510 511 512 513 514 515 516 517 518 519 51A 51B",
  "51C 51D 51E 51F 520 521 522 523 524 525 526 527 528 529 52A 52B 52C 52D 52E 52F 530 559 587",
  "588 58B 58D 590 591 5C8 5D0 5EB 5EF 5F5 606 61C 61D 675 679 6DD 6DE 70E 710 74B 74D 7B2 7C0",
  "7FB 7FD 82E 830 83F 840 85C 85E 85F 860 86B 870 890 897 8E2 8E3 958 960 984 985 98D 98F 991",
  "993 9A9 9AA 9B1 9B2 9B3 9B6 9BA 9BC 9C5 9C7 9C9 9CB 9CF 9D7 9D8 9E0 9E4 9E6 9FF A01 A04 A05",
  "A0B A0F A11 A13 A29 A2A A31 A32 A33 A35 A36 A38 A3A A3C A3D A3E A43 A47 A49 A4B A4E A51 A52",
  "A5C A5D A66 A77 A81 A84 A85 A8E A8F A92 A93 AA9 AAA AB1 AB2 AB4 AB5 ABA ABC AC6 AC7 ACA ACB",
  "ACE AD0 AD1 AE0 AE4 AE6 AF2 AF9 B00 B01 B04 B05 B0D B0F B11 B13 B29 B2A B31 B32 B34 B35 B3A",
  "B3C B45 B47 B49 B4B B4E B55 B58 B5F B64 B66 B78 B82 B84 B85 B8B B8E B91 B92 B96 B99 B9B B9C",
  "B9D B9E BA0 BA3 BA5 BA8 BAB BAE BBA BBE BC3 BC6 BC9 BCA BCE BD0 BD1 BD7 BD8 BE6 BFB C00 C0D",
  "C0E C11 C12 C29 C2A C3A C3C C45 C46 C49 C4A C4E C55 C57 C58 C5B C5C C5E C60 C64 C66 C70 C77",
  "C8D C8E C91 C92 CA9 CAA CB4 CB5 CBA CBC CC5 CC6 CC9 CCA CCE CD5 CD7 CDC CDF CE0 CE4 CE6 CF0",
  "CF1 CF4 D00 D0D D0E D11 D12 D45 D46 D49 D4A D50 D54 D64 D66 D80 D81 D84 D85 D97 D9A DB2 DB3",
  "DBC DBD DBE DC0 DC7 DCA DCB DCF DD5 DD6 DD7 DD8 DE0 DE6 DF0 DF2 DF5 E01 E33 E34 E3B E3F E5C",
  "E81 E83 E84 E85 E86 E8B E8C EA4 EA5 EA6 EA7 EB3 EB4 EBE EC0 EC5 EC6 EC7 EC8 ECF ED0 EDA EDE",
  "EE0 F00 F0C F0D F43 F44 F48 F49 F4D F4E F52 F53 F57 F58 F5C F5D F69 F6A F6D F71 F73 F74 F75",
  "F7A F81 F82 F93 F94 F98 F99 F9D F9E FA2 FA3 FA7 FA8 FAC FAD FB9 FBA FBD FBE FCD FCE FDB 1000",
  "10A0 10D0 10FC 10FD 115F 1161 1249 124A 124E 1250 1257 1258 1259 125A 125E 1260 1289 128A 128E",
  "1290 12B1 12B2 12B6 12B8 12BF 12C0 12C1 12C2 12C6 12C8 12D7 12D8 1311 1312 1316 1318 135B 135D",
  "137D 1380 139A 13A0 13F6 1400 1680 1681 169D 16A0 16F9 1700 1716 171F 1737 1740 1754 1760 176D",
  "176E 1771 1772 1774 1780 17B4 17B6 17DE 17E0 17EA 17F0 17FA 1800 180B 1810 181A 1820 1879 1880",
  "18AB 18B0 18F6 1900 191F 1920 192C 1930 193C 1940 1941 1944 196E 1970 1975 1980 19AC 19B0 19CA",
  "19D0 19DB 19DE 1A1C 1A1E 1A5F 1A60 1A7D 1A7F 1A8A 1A90 1A9A 1AA0 1AAE 1AB0 1AEC 1B00 1B4D 1B4E",
  "1BF4 1BFC 1C38 1C3B 1C4A 1C4D 1C80 1C8A 1C8B 1CC0 1CC8 1CD0 1CFB 1D00 1D2C 1D2F 1D30 1D3B 1D3C",
  "1D4E 1D4F 1D6B 1D78 1D79 1D9B 1DC0 1E00 1E01 1E02 1E03 1E04 1E05 1E06 1E07 1E08 1E09 1E0A 1E0B",
  "1E0C 1E0D 1E0E 1E0F 1E10 1E11 1E12 1E13 1E14 1E15 1E16 1E17 1E18 1E19 1E1A 1E1B 1E1C 1E1D 1E1E",
  "1E1F 1E20 1E21 1E22 1E23 1E24 1E25 1E26 1E27 1E28 1E29 1E2A 1E2B 1E2C 1E2D 1E2E 1E2F 1E30 1E31",
  "1E32 1E33 1E34 1E35 1E36 1E37 1E38 1E39 1E3A 1E3B 1E3C 1E3D 1E3E 1E3F 1E40 1E41 1E42 1E43 1E44",
  "1E45 1E46 1E47 1E48 1E49 1E4A 1E4B 1E4C 1E4D 1E4E 1E4F 1E50 1E51 1E52 1E53 1E54 1E55 1E56 1E57",
  "1E58 1E59 1E5A 1E5B 1E5C 1E5D 1E5E 1E5F 1E60 1E61 1E62 1E63 1E64 1E65 1E66 1E67 1E68 1E69 1E6A",
  "1E6B 1E6C 1E6D 1E6E 1E6F 1E70 1E71 1E72 1E73 1E74 1E75 1E76 1E77 1E78 1E79 1E7A 1E7B 1E7C 1E7D",
  "1E7E 1E7F 1E80 1E81 1E82 1E83 1E84 1E85 1E86 1E87 1E88 1E89 1E8A 1E8B 1E8C 1E8D 1E8E 1E8F 1E90",
  "1E91 1E92 1E93 1E94 1E95 1E9A 1E9C 1E9E 1E9F 1EA0 1EA1 1EA2 1EA3 1EA4 1EA5 1EA6 1EA7 1EA8 1EA9",
  "1EAA 1EAB 1EAC 1EAD 1EAE 1EAF 1EB0 1EB1 1EB2 1EB3 1EB4 1EB5 1EB6 1EB7 1EB8 1EB9 1EBA 1EBB 1EBC",
  "1EBD 1EBE 1EBF 1EC0 1EC1 1EC2 1EC3 1EC4 1EC5 1EC6 1EC7 1EC8 1EC9 1ECA 1ECB 1ECC 1ECD 1ECE 1ECF",
  "1ED0 1ED1 1ED2 1ED3 1ED4 1ED5 1ED6 1ED7 1ED8 1ED9 1EDA 1EDB 1EDC 1EDD 1EDE 1EDF 1EE0 1EE1 1EE2",
  "1EE3 1EE4 1EE5 1EE6 1EE7 1EE8 1EE9 1EEA 1EEB 1EEC 1EED 1EEE 1EEF 1EF0 1EF1 1EF2 1EF3 1EF4 1EF5",
  "1EF6 1EF7 1EF8 1EF9 1EFA 1EFB 1EFC 1EFD 1EFE 1EFF 1F08 1F10 1F16 1F20 1F28 1F30 1F38 1F40 1F46",
  "1F50 1F58 1F60 1F68 1F70 1F71 1F72 1F73 1F74 1F75 1F76 1F77 1F78 1F79 1F7A 1F7B 1F7C 1F7D 1FB0",
  "1FB2 1FB6 1FB7 1FC6 1FC7 1FD0 1FD3 1FD6 1FD8 1FE0 1FE3 1FE4 1FE8 1FF6 1FF7 200C 200E 2010 2011",
  "2012 2017 2018 2024 2027 2028 2030 2033 2035 2036 2038 203C 203D 203E 203F 2047 204A 2057 2058",
  "205F 208F 2090 20A0 20A8 20A9 20C5 20D0 20F1 2104 2105 2108 2109 2114 2115 2117 2119 211E 2120",
  "2123 2124 2125 2126 2127 2128 2129 212A 212E 212F 213A 213B 2141 2145 214A 2150 2180 2183 2184",
  "2189 218A 218C 2190 222C 222E 222F 2231 2329 232B 242A 2440 244B 24EB 2A0C 2A0D 2A74 2A77 2ADC",
  "2ADD 2B74 2B76 2C00 2C30 2C60 2C61 2C62 2C65 2C67 2C68 2C69 2C6A 2C6B 2C6C 2C6D 2C71 2C72 2C73",
  "2C75 2C76 2C7C 2C81 2C82 2C83 2C84 2C85 2C86 2C87 2C88 2C89 2C8A 2C8B 2C8C 2C8D 2C8E 2C8F 2C90",
  "2C91 2C92 2C93 2C94 2C95 2C96 2C97 2C98 2C99 2C9A 2C9B 2C9C 2C9D 2C9E 2C9F 2CA0 2CA1 2CA2 2CA3",
  "2CA4 2CA5 2CA6 2CA7 2CA8 2CA9 2CAA 2CAB 2CAC 2CAD 2CAE 2CAF 2CB0 2CB1 2CB2 2CB3 2CB4 2CB5 2CB6",
  "2CB7 2CB8 2CB9 2CBA 2CBB 2CBC 2CBD 2CBE 2CBF 2CC0 2CC1 2CC2 2CC3 2CC4 2CC5 2CC6 2CC7 2CC8 2CC9",
  "2CCA 2CCB 2CCC 2CCD 2CCE 2CCF 2CD0 2CD1 2CD2 2CD3 2CD4 2CD5 2CD6 2CD7 2CD8 2CD9 2CDA 2CDB 2CDC",
  "2CDD 2CDE 2CDF 2CE0 2CE1 2CE2 2CE3 2CEB 2CEC 2CED 2CEE 2CF2 2CF3 2CF4 2CF9 2D26 2D27 2D28 2D2D",
  "2D2E 2D30 2D68 2D70 2D71 2D7F 2D97 2DA0 2DA7 2DA8 2DAF 2DB0 2DB7 2DB8 2DBF 2DC0 2DC7 2DC8 2DCF",
  "2DD0 2DD7 2DD8 2DDF 2DE0 2E5E 2E80 2E9A 2E9B 2E9F 2EA0 2EF3 3001 3002 3003 3036 3037 3038 303B",
  "3040 3041 3097 3099 309B 309D 309F 30A0 30FF 3105 3130 3190 3192 31A0 31E6 31F0 3200 3248 3250",
  "327F 3280 3400 A48D A490 A4C7 A4D0 A62C A641 A642 A643 A644 A645 A646 A647 A648 A649 A64A A64B",
  "A64C A64D A64E A64F A650 A651 A652 A653 A654 A655 A656 A657 A658 A659 A65A A65B A65C A65D A65E",
  "A65F A660 A661 A662 A663 A664 A665 A666 A667 A668 A669 A66A A66B A66C A66D A680 A681 A682 A683",
  "A684 A685 A686 A687 A688 A689 A68A A68B A68C A68D A68E A68F A690 A691 A692 A693 A694 A695 A696",
  "A697 A698 A699 A69A A69B A69C A69E A6F8 A700 A722 A723 A724 A725 A726 A727 A728 A729 A72A A72B",
  "A72C A72D A72E A72F A732 A733 A734 A735 A736 A737 A738 A739 A73A A73B A73C A73D A73E A73F A740",
  "A741 A742 A743 A744 A745 A746 A747 A748 A749 A74A A74B A74C A74D A74E A74F A750 A751 A752 A753",
  "A754 A755 A756 A757 A758 A759 A75A A75B A75C A75D A75E A75F A760 A761 A762 A763 A764 A765 A766",
  "A767 A768 A769 A76A A76B A76C A76D A76E A76F A770 A771 A779 A77A A77B A77C A77D A77F A780 A781",
  "A782 A783 A784 A785 A786 A787 A78B A78C A78D A78E A790 A791 A792 A793 A796 A797 A798 A799 A79A",
  "A79B A79C A79D A79E A79F A7A0 A7A1 A7A2 A7A3 A7A4 A7A5 A7A6 A7A7 A7A8 A7A9 A7AA A7AF A7B0 A7B5",
  "A7B6 A7B7 A7B8 A7B9 A7BA A7BB A7BC A7BD A7BE A7BF A7C0 A7C1 A7C2 A7C3 A7C4 A7C8 A7C9 A7CA A7CB",
  "A7CD A7CE A7CF A7D0 A7D1 A7D2 A7D3 A7D4 A7D5 A7D6 A7D7 A7D8 A7D9 A7DA A7DB A7DC A7F6 A7F8 A7FA",
  "A82D A830 A83A A840 A878 A880 A8C6 A8CE A8DA A8E0 A954 A95F A97D A980 A9CE A9CF A9DA A9DE A9FF",
  "AA00 AA37 AA40 AA4E AA50 AA5A AA5C AAC3 AADB AAF7 AB01 AB07 AB09 AB0F AB11 AB17 AB20 AB27 AB28",
  "AB2F AB30 AB5C AB60 AB69 AB6A AB6C ABC0 ABEE ABF0 ABFA AC00 D7A4 D7B0 D7C7 D7CB D7FC FA0E FA10",
  "FA11 FA12 FA13 FA15 FA1F FA20 FA21 FA22 FA23 FA25 FA27 FA2A FB1E FB1F FBB2 FBD3 FD3E FD50 FD90",
  "FD92 FDC8 FDD0 FDFD FE00 FE20 FE30 FE45 FE47 FE73 FE74 10000 1000C 1000D 10027 10028 1003B",
  "1003C 1003E 1003F 1004E 10050 1005E 10080 100FB 10100 10103 10107 10134 10137 1018F 10190",
  "1019D 101A0 101A1 101D0 101FE 10280 1029D 102A0 102D1 102E0 102FC 10300 10324 1032D 1034B",
  "10350 1037B 10380 1039E 1039F 103C4 103C8 103D6 10428 1049E 104A0 104AA 104D8 104FC 10500",
  "10528 10530 10564 1056F 10570 10597 105A2 105A3 105B2 105B3 105BA 105BB 105BD 105C0 105F4",
  "10600 10737 10740 10756 10760 10768 10780 10781 10800 10806 10808 10809 1080A 10836 10837",
  "10839 1083C 1083D 1083F 10856 10857 1089F 108A7 108B0 108E0 108F3 108F4 108F6 108FB 1091C",
  "1091F 1093A 1093F 1095A 10980 109B8 109BC 109D0 109D2 10A04 10A05 10A07 10A0C 10A14 10A15",
  "10A18 10A19 10A36 10A38 10A3B 10A3F 10A49 10A50 10A59 10A60 10AA0 10AC0 10AE7 10AEB 10AF7",
  "10B00 10B36 10B39 10B56 10B58 10B73 10B78 10B92 10B99 10B9D 10BA9 10BB0 10C00 10C49 10CC0",
  "10CF3 10CFA 10D28 10D30 10D3A 10D40 10D50 10D69 10D86 10D8E 10D90 10E60 10E7F 10E80 10EAA",
  "10EAB 10EAE 10EB0 10EB2 10EC2 10EC8 10ED0 10ED9 10EFA 10F28 10F30 10F5A 10F70 10F8A 10FB0",
  "10FCC 10FE0 10FF7 11000 1104E 11052 11076 1107F 110BD 110BE 110C3 110D0 110E9 110F0 110FA",
  "11100 11135 11136 11148 11150 11177 11180 111E0 111E1 111F5 11200 11212 11213 11242 11280",
  "11287 11288 11289 1128A 1128E 1128F 1129E 1129F 112AA 112B0 112EB 112F0 112FA 11300 11304",
  "11305 1130D 1130F 11311 11313 11329 1132A 11331 11332 11334 11335 1133A 1133B 11345 11347",
  "11349 1134B 1134E 11350 11351 11357 11358 1135D 11364 11366 1136D 11370 11375 11380 1138A",
  "1138B 1138C 1138E 1138F 11390 113B6 113B7 113C1 113C2 113C3 113C5 113C6 113C7 113CB 113CC",
  "113D6 113D7 113D9 113E1 113E3 11400 1145C 1145D 11462 11480 114C8 114D0 114DA 11580 115B6",
  "115B8 115DE 11600 11645 11650 1165A 11660 1166D 11680 116BA 116C0 116CA 116D0 116E4 11700",
  "1171B 1171D 1172C 11730 11747 11800 1183C 118C0 118F3 118FF 11907 11909 1190A 1190C 11914",
  "11915 11917 11918 11936 11937 11939 1193B 11947 11950 1195A 119A0 119A8 119AA 119D8 119DA",
  "119E5 11A00 11A48 11A50 11AA3 11AB0 11AF9 11B00 11B0A 11B60 11B68 11BC0 11BE2 11BF0 11BFA",
  "11C00 11C09 11C0A 11C37 11C38 11C46 11C50 11C6D 11C70 11C90 11C92 11CA8 11CA9 11CB7 11D00",
  "11D07 11D08 11D0A 11D0B 11D37 11D3A 11D3B 11D3C 11D3E 11D3F 11D48 11D50 11D5A 11D60 11D66",
  "11D67 11D69 11D6A 11D8F 11D90 11D92 11D93 11D99 11DA0 11DAA 11DB0 11DDC 11DE0 11DEA 11EE0",
  "11EF9 11F00 11F11 11F12 11F3B 11F3E 11F5B 11FB0 11FB1 11FC0 11FF2 11FFF 1239A 12400 1246F",
  "12470 12475 12480 12544 12550 12687 12F90 12FF3 13000 13430 13440 13456 13460 143FB 14400",
  "14647 16100 1613A 16800 16A39 16A40 16A5F 16A60 16A6A 16A6E 16ABF 16AC0 16ACA 16AD0 16AEE",
  "16AF0 16AF6 16B00 16B46 16B50 16B5A 16B5B 16B62 16B63 16B78 16B7D 16B90 16D40 16D7A 16D80",
  "16DAA 16E60 16E9B 16EBB 16ED4 16F00 16F4B 16F4F 16F88 16F8F 16FA0 16FE0 16FE5 16FF0 16FF7",
  "17000 18CD6 18CFF 18D1F 18D80 18DF3 18E00 19200 1AFF0 1AFF4 1AFF5 1AFFC 1AFFD 1AFFF 1B000",
  "1B123 1B132 1B133 1B150 1B153 1B155 1B156 1B164 1B168 1B170 1B2FC 1BC00 1BC6B 1BC70 1BC7D",
  "1BC80 1BC89 1BC90 1BC9A 1BC9C 1BCA0 1CC00 1CCD6 1CCFA 1CCFD 1CD00 1CEB4 1CEBA 1CED1 1CEE0",
  "1CEF1 1CF00 1CF2E 1CF30 1CF47 1CF50 1CFC4 1D000 1D0F6 1D100 1D127 1D129 1D15E 1D165 1D173",
  "1D17B 1D1BB 1D1C1 1D1EB 1D200 1D246 1D250 1D290 1D2C0 1D2D4 1D2E0 1D2F4 1D300 1D357 1D360",
  "1D379 1D800 1DA8C 1DA9B 1DAA0 1DAA1 1DAB0 1DB00 1DC00 1DF00 1DF1F 1DF25 1DF2B 1E000 1E007",
  "1E008 1E019 1E01B 1E022 1E023 1E025 1E026 1E02B 1E08F 1E090 1E100 1E12D 1E130 1E13E 1E140",
  "1E14A 1E14E 1E150 1E290 1E2AF 1E2C0 1E2FA 1E2FF 1E300 1E4D0 1E4FA 1E5D0 1E5FB 1E5FF 1E600",
  "1E6C0 1E6DF 1E6E0 1E6F6 1E6FE 1E700 1E7E0 1E7E7 1E7E8 1E7EC 1E7ED 1E7EF 1E7F0 1E7FF 1E800",
  "1E8C5 1E8C7 1E8D7 1E922 1E94C 1E950 1E95A 1E95E 1E960 1EC71 1ECB5 1ED01 1ED3E 1EEF0 1EEF2",
  "1F000 1F02C 1F030 1F094 1F0A0 1F0AF 1F0B1 1F0C0 1F0C1 1F0D0 1F0D1 1F0F6 1F10B 1F110 1F12F",
  "1F130 1F150 1F16A 1F16D 1F190 1F191 1F1AE 1F1E6 1F200 1F260 1F266 1F300 1F6DA 1F6DC 1F6ED",
  "1F6F0 1F6FD 1F700 1F7DA 1F7E0 1F7EC 1F7F0 1F7F1 1F800 1F80C 1F810 1F848 1F850 1F85A 1F860",
  "1F888 1F890 1F8AE 1F8B0 1F8BC 1F8C0 1F8C2 1F8D0 1F8D9 1F900 1FA58 1FA60 1FA6E 1FA70 1FA7D",
  "1FA80 1FAC7 1FAC8 1FAC9 1FACC 1FADE 1FADF 1FAEC 1FAEF 1FAFB 1FB00 1FB93 1FB94 1FBF0 1FBFA",
  "1FBFB 20000 2A6E0 2A700 2B81E 2B820 2CEAE 2CEB0 2EBE1 2EBF0 2EE5E 30000 3134B 31350 3347A",
  "3D000 3FC40"]

def ignored : Stretches := .ofLines [
  "AD AE 34F 350 115F 1161 17B4 17B6 180B 1810 200B 200C 2060 2065 206A 2070 3164 3165 FE00 FE10",
  "FEFF FF00 FFA0 FFA1 1BCA0 1BCA4 1D173 1D17B E0100 E01F0"]

/-- The first of a row of characters, their number, and the first of those that replace them. -/
def shifts : List (List Nat) := Table.rows [
  "41 1A 61,C0 17 E0,D8 7 F8,388 3 3AD,391 11 3B1,3A3 9 3C3,3FD 3 37B,400 10 450,410 20 430",
  "531 26 561,10A0 26 2D00,13F8 6 13F0,1C90 2B 10D0,1CBD 3 10FD,1D33 8 67,1D5D 3 3B2,1DA4 3 268",
  "1DAE 4 272,1DBC 3 290,1F08 8 1F00,1F18 6 1F10,1F28 8 1F20,1F38 8 1F30,1F48 6 1F40,1F68 8 1F60",
  "2074 6 34,2080 A 30,2096 4 6B,2119 3 70,2135 4 5D0,2460 9 31,24B6 1A 61,24D0 1A 61",
  "2C00 30 2C30,3137 3 1103,313A 6 11B0,3141 3 1106,3145 A 1109,314F 15 1161,3178 5 112B",
  "3184 3 1157,3263 3 1105,3269 5 110E,32E4 6 30CA,32EE 5 30DE,32F5 6 30E8,32FB 4 30EF,A7DD 6 277",
  "AB70 50 13A0,FB24 3 5DB,FE41 4 300C,FF01 20 21,FF21 1A 61,FF3B 24 5B,FF85 6 30CA,FF8F 5 30DE",
  "FF96 6 30E8,FFA7 3 1103,FFAA 6 11B0,FFB1 3 1106,FFB5 A 1109,FFC2 6 1161,FFCA 6 1167",
  "FFD2 6 116D,FFDA 3 1173,FFE9 4 2190,10400 28 10428,104B0 24 104D8,10570 B 10597,1057C F 105A3",
  "1058C 7 105B3,107B6 3 1C0,10C80 33 10CC0,10D50 16 10D70,118A0 20 118C0,16E40 20 16E60",
  "16EA0 19 16EBB,1CCD6 1A 61,1CCF0 A 30,1D400 1A 61,1D41A 1A 61,1D434 1A 61,1D44E 7 61",
  "1D456 12 69,1D468 1A 61,1D482 1A 61,1D4A9 4 6E,1D4AE 8 73,1D4B6 4 61,1D4BD 7 68,1D4C5 B 70",
  "1D4D0 1A 61,1D4EA 1A 61,1D507 4 64,1D50D 8 6A,1D516 7 73,1D51E 1A 61,1D53B 4 64,1D540 5 69",
  "1D54A 7 73,1D552 1A 61,1D56C 1A 61,1D586 1A 61,1D5A0 1A 61,1D5BA 1A 61,1D5D4 1A 61,1D5EE 1A 61",
  "1D608 1A 61,1D622 1A 61,1D63C 1A 61,1D656 1A 61,1D670 1A 61,1D68A 1A 61,1D6A8 11 3B1",
  "1D6BA 7 3C3,1D6C2 11 3B1,1D6D4 7 3C3,1D6E2 11 3B1,1D6F4 7 3C3,1D6FC 11 3B1,1D70E 7 3C3",
  "1D71C 11 3B1,1D72E 7 3C3,1D736 11 3B1,1D748 7 3C3,1D756 11 3B1,1D768 7 3C3,1D770 11 3B1",
  "1D782 7 3C3,1D790 11 3B1,1D7A2 7 3C3,1D7AA 11 3B1,1D7BC 7 3C3,1D7CE A 30,1D7D8 A 30,1D7E2 A 30",
  "1D7EC A 30,1D7F6 A 30,1E030 9 430,1E039 3 43A,1E03C B 43E,1E051 9 430,1E05F 6 443",
  "1E900 22 1E922,1EE0A 4 643,1EE2A 4 643,1EE8B 3 644,1EEAB 3 644,1F130 1A 61,1FBF0 A 30"]

/-- The first of a row of characters, every other one of which is replaced by its neighbour, and
the number of those. -/
def neighbours : List (List Nat) := Table.rows [
  "100 18,134 2,139 3,141 4,14A 17,179 3,182 2,1A0 3,1B3 2,1CD 8,1DE 9,1F8 14,222 9,246 5,370 2",
  "3D8 C,460 11,48A 1B,4C1 7,4D0 30,1E00 4B,1EA0 30,2C67 3,2C80 32,2CEB 2,A640 17,A680 E,A722 7",
  "A732 1F,A779 2,A77E 5,A790 2,A796 A,A7B4 8,A7C7 2,A7CC 8"]

/-- The first of a row of characters, and those that replace them. -/
def replacements : List (List Nat) := Table.rows [
  "A0 20,AA 61,B2 32 33,B5 3BC,B9 31 6F,178 FF,17F 73,181 253,186 254 188,189 256 257 18C",
  "18E 1DD 259 25B 192,193 260 263,196 269 268 199,19C 26F 272,19F 275,1A6 280 1A8,1A9 283",
  "1AC 1AD,1AE 288 1B0,1B1 28A 28B,1B7 292 1B9,1BC 1BD,1F4 1F5,1F6 195 1BF,220 19E,23A 2C65 23C",
  "23D 19A 2C66,241 242,243 180 289 28C,2B0 68 266 6A 72 279 27B 281 77 79,2E0 263 6C 73 78 295",
  "340 300 301,343 313,345 3B9,374 2B9,376 377,37E 3B 3F3,386 3AC B7,38C 3CC,38E 3CD 3CE",
  "3CF 3D7 3B2 3B8 3C5 3CD 3CB 3C6 3C0,3F0 3BA 3C1 3C3,3F4 3B8 3B5,3F7 3F8,3F9 3C3 3FB,4C0 4CF",
  "558 567,F0C F0B,10C7 2D27,10CD 2D2D,10FC 10DC,1C80 432 434 43E 441 442 442 44A 463 A64B 1C8A",
  "1D2C 61 E6 62,1D30 64 65 1DD",
  "1D3C 6F 223 70 72 74 75 77 61 250 251 1D02 62 64 65 259 25B 25C 67",
  "1D4F 6B 6D 14B 6F 254 1D16 1D17 70 74 75 1D1D 26F 76 1D25",
  "1D60 3C6 3C7 69 72 75 76 3B2 3B3 3C1 3C6 3C7,1D78 43D,1D9B 252 63 255 F0 25C 66 25F 261 265",
  "1DA7 1D7B 29D 26D 1D85 29F 271 270,1DB2 278 282 283 1AB 289 28A 1D1C 28B 28C 7A,1DBF 3B8",
  "1E9B 1E61,1E9E DF,1F59 1F51,1F5B 1F53,1F5D 1F55,1F5F 1F57,1F71 3AC,1F73 3AD,1F75 3AE,1F77 3AF",
  "1F79 3CC,1F7B 3CD,1F7D 3CE,1FB8 1FB0 1FB1 1F70 3AC,1FBE 3B9,1FC8 1F72 3AD 1F74 3AE,1FD3 390",
  "1FD8 1FD0 1FD1 1F76 3AF,1FE3 3B0,1FE8 1FE0 1FE1 1F7A 3CD 1FE5,1FEF 60,1FF8 1F78 3CC 1F7C 3CE",
  "2000 20 20 20 20 20 20 20 20 20 20 20,2011 2010,202F 20,205F 20,2070 30 69",
  "207A 2B 2212 3D 28 29 6E,208A 2B 2212 3D 28 29,2090 61 65 6F 78 259 68,209A 70 73 74 77 79 7A",
  "2102 63,2107 25B,210A 67 68 68 68 68 127 69 69 6C 6C,2115 6E,211C 72 72,2124 7A,2126 3C9",
  "2128 7A,212A 6B E5 62 63,212F 65 65 66 214E 6D 6F,2139 69,213C 3C0 3B3 3B3 3C0 2211",
  "2145 64 64 65 69 6A,2160 69,2164 76,2169 78,216C 6C 63 64 6D 69,2174 76,2179 78",
  "217C 6C 63 64 6D,2183 2184,2329 3008 3009,24EA 30,2C60 2C61,2C62 26B 1D7D 27D",
  "2C6D 251 271 250 252,2C72 2C73,2C75 2C76,2C7C 6A 76 23F 240,2CF2 2CF3,2D6F 2D61,2E9F 6BCD",
  "2EF3 9F9F",
  "2F00 4E00 4E28 4E36 4E3F 4E59 4E85 4E8C 4EA0 4EBA 513F 5165 516B 5182 5196 51AB 51E0 51F5 5200",
  "2F12 529B 52F9 5315 531A 5338 5341 535C 5369 5382 53B6 53C8 53E3 56D7 571F 58EB 5902 590A 5915",
  "2F24 5927 5973 5B50 5B80 5BF8 5C0F 5C22 5C38 5C6E 5C71 5DDB 5DE5 5DF1 5DFE 5E72 5E7A 5E7F 5EF4",
  "2F36 5EFE 5F0B 5F13 5F50 5F61 5F73 5FC3 6208 6236 624B 652F 6534 6587 6597 65A4 65B9 65E0 65E5",
  "2F48 66F0 6708 6728 6B20 6B62 6B79 6BB3 6BCB 6BD4 6BDB 6C0F 6C14 6C34 706B 722A 7236 723B 723F",
  "2F5A 7247 7259 725B 72AC 7384 7389 74DC 74E6 7518 751F 7528 7530 758B 7592 7676 767D 76AE 76BF",
  "2F6C 76EE 77DB 77E2 77F3 793A 79B8 79BE 7A74 7ACB 7AF9 7C73 7CF8 7F36 7F51 7F8A 7FBD 8001 800C",
  "2F7E 8012 8033 807F 8089 81E3 81EA 81F3 81FC 820C 821B 821F 826E 8272 8278 864D 866B 8840 884C",
  "2F90 8863 897E 898B 89D2 8A00 8C37 8C46 8C55 8C78 8C9D 8D64 8D70 8DB3 8EAB 8ECA 8F9B 8FB0 8FB5",
  "2FA2 9091 9149 91C6 91CC 91D1 9577 9580 961C 96B6 96B9 96E8 9751 975E 9762 9769 97CB 97ED 97F3",
  "2FB4 9801 98A8 98DB 98DF 9996 9999 99AC 9AA8 9AD8 9ADF 9B25 9B2F 9B32 9B3C 9B5A 9CE5 9E75 9E7F",
  "2FC6 9EA5 9EBB 9EC3 9ECD 9ED1 9EF9 9EFD 9F0E 9F13 9F20 9F3B 9F4A 9F52 9F8D 9F9C 9FA0,3000 20",
  "3002 2E,3036 3012,3038 5341 5344 5345,3131 1100 1101 11AA 1102 11AC 11AD,3140 111A,3144 1121",
  "3165 1114 1115 11C7 11C8 11CC 11CE 11D3 11D7 11D9 111C 11DD 11DF 111D 111E 1120 1122 1123 1127",
  "3177 1129,317D 1132 1136 1140 1147 114C 11F1 11F2,3187 1184 1185 1188 1191 1192 1194 119E 11A1",
  "3192 4E00 4E8C 4E09 56DB 4E0A 4E2D 4E0B 7532 4E59 4E19 4E01 5929 5730 4EBA",
  "3244 554F 5E7C 6587 7B8F,3260 1100 1102 1103,3266 1109 110B 110C",
  "326E AC00 B098 B2E4 B77C B9C8 BC14 C0AC C544 C790 CC28 CE74 D0C0 D30C D558,327E C6B0",
  "3280 4E00 4E8C 4E09 56DB 4E94 516D 4E03 516B 4E5D 5341 6708 706B 6C34 6728 91D1 571F 65E5 682A",
  "3292 6709 793E 540D 7279 8CA1 795D 52B4 79D8 7537 5973 9069 512A 5370 6CE8 9805 4F11 5199 6B63",
  "32A4 4E0A 4E2D 4E0B 5DE6 53F3 533B 5B97 5B66 76E3 4F01 8CC7 5354 591C",
  "32D0 30A2 30A4 30A6 30A8 30AA 30AB 30AD 30AF 30B1 30B3 30B5 30B7 30B9 30BB 30BD 30BF 30C1 30C4",
  "32E2 30C6 30C8,32EA 30D2 30D5 30D8 30DB,32F3 30E4 30E6,A69C 44A 44C,A770 A76F,A77D 1D79",
  "A78B A78C,A78D 265,A7AA 266 25C 261 26C 26A,A7B0 29E 287 29D AB53,A7C4 A794 282 1D8E,A7CB 264",
  "A7DC 19B,A7F1 73 63 66 71 A7F6,A7F8 127 153,AB5C A727 AB37 26B AB52,AB69 28D,AB6C AB4B",
  "F900 8C48 66F4 8ECA 8CC8 6ED1 4E32 53E5 9F9C 9F9C 5951 91D1 5587 5948 61F6 7669 7F85 863F 87BA",
  "F912 88F8 908F 6A02 6D1B 70D9 73DE 843D 916A 99F1 4E82 5375 6B04 721B 862D 9E1E 5D50 6FEB 85CD",
  "F924 8964 62C9 81D8 881F 5ECA 6717 6D6A 72FC 90CE 4F86 51B7 52DE 64C4 6AD3 7210 76E7 8001 8606",
  "F936 865C 8DEF 9732 9B6F 9DFA 788C 797F 7DA0 83C9 9304 9E7F 8AD6 58DF 5F04 7C60 807E 7262 78CA",
  "F948 8CC2 96F7 58D8 5C62 6A13 6DDA 6F0F 7D2F 7E37 964B 52D2 808B 51DC 51CC 7A1C 7DBE 83F1 9675",
  "F95A 8B80 62CF 6A02 8AFE 4E39 5BE7 6012 7387 7570 5317 78FB 4FBF 5FA9 4E0D 6CCC 6578 7D22 53C3",
  "F96C 585E 7701 8449 8AAA 6BBA 8FB0 6C88 62FE 82E5 63A0 7565 4EAE 5169 51C9 6881 7CE7 826F 8AD2",
  "F97E 91CF 52F5 5442 5973 5EEC 65C5 6FFE 792A 95AD 9A6A 9E97 9ECE 529B 66C6 6B77 8F62 5E74 6190",
  "F990 6200 649A 6F23 7149 7489 79CA 7DF4 806F 8F26 84EE 9023 934A 5217 52A3 54BD 70C8 88C2 8AAA",
  "F9A2 5EC9 5FF5 637B 6BAE 7C3E 7375 4EE4 56F9 5BE7 5DBA 601C 73B2 7469 7F9A 8046 9234 96F6 9748",
  "F9B4 9818 4F8B 79AE 91B4 96B8 60E1 4E86 50DA 5BEE 5C3F 6599 6A02 71CE 7642 84FC 907C 9F8D 6688",
  "F9C6 962E 5289 677B 67F3 6D41 6E9C 7409 7559 786B 7D10 985E 516D 622E 9678 502B 5D19 6DEA 8F2A",
  "F9D8 5F8B 6144 6817 7387 9686 5229 540F 5C65 6613 674E 68A8 6CE5 7406 75E2 7F79 88CF 88E1 91CC",
  "F9EA 96E2 533F 6EBA 541D 71D0 7498 85FA 96A3 9C57 9E9F 6797 6DCB 81E8 7ACB 7B20 7C92 72C0 7099",
  "F9FC 8B58 4EC0 8336 523A 5207 5EA6 62D3 7CD6 5B85 6D1E 66B4 8F3B 884C 964D 898B 5ED3 5140 55C0",
  "FA10 585A,FA12 6674,FA15 51DE 732A 76CA 793C 795E 7965 798F 9756 7CBE 7FBD,FA20 8612,FA22 8AF8",
  "FA25 9038 90FD",
  "FA2A 98EF 98FC 9928 9DB4 90DE 96B7 4FAE 50E7 514D 52C9 52E4 5351 559D 5606 5668 5840 58A8 5C64",
  "FA3C 5C6E 6094 6168 618E 61F2 654F 65E2 6691 6885 6D77 6E1A 6F22 716E 722B 7422 7891 793E 7949",
  "FA4E 7948 7950 7956 795D 798D 798E 7A40 7A81 7BC0 7DF4 7E09 7E41 7F72 8005 81ED 8279 8279 8457",
  "FA60 8910 8996 8B01 8B39 8CD3 8D08 8FB6 9038 96E3 97FF 983B 6075 242EE 8218",
  "FA70 4E26 51B5 5168 4F80 5145 5180 52C7 52FA 559D 5555 5599 55E2 585A 58B3 5944 5954 5A62 5B28",
  "FA82 5ED2 5ED9 5F69 5FAD 60D8 614E 6108 618E 6160 61F2 6234 63C4 641C 6452 6556 6674 6717 671B",
  "FA94 6756 6B79 6BBA 6D41 6EDB 6ECB 6F22 701E 716E 77A7 7235 72AF 732A 7471 7506 753B 761D 761F",
  "FAA6 76CA 76DB 76F4 774A 7740 78CC 7AB1 7BC0 7C7B 7D5B 7DF4 7F3E 8005 8352 83EF 8779 8941 8986",
  "FAB8 8996 8ABF 8AF8 8ACB 8B01 8AFE 8AED 8B39 8B8A 8D08 8F38 9072 9199 9276 967C 96E3 9756 97DB",
  "FACA 97FF 980B 983B 9B12 9F9C 2284A 22844 233D5 3B9D 4018 4039 25249 25CD0 27ED3 9F43 9F8E",
  "FB20 5E2 5D0 5D3 5D4,FB27 5E8 5EA 2B",
  "FB50 671 671 67B 67B 67B 67B 67E 67E 67E 67E 680 680 680 680 67A 67A 67A 67A 67F 67F 67F 67F",
  "FB66 679 679 679 679 6A4 6A4 6A4 6A4 6A6 6A6 6A6 6A6 684 684 684 684 683 683 683 683 686 686",
  "FB7C 686 686 687 687 687 687 68D 68D 68C 68C 68E 68E 688 688 698 698 691 691 6A9 6A9 6A9 6A9",
  "FB92 6AF 6AF 6AF 6AF 6B3 6B3 6B3 6B3 6B1 6B1 6B1 6B1 6BA 6BA 6BB 6BB 6BB 6BB 6C0 6C0 6C1 6C1",
  "FBA8 6C1 6C1 6BE 6BE 6BE 6BE 6D2 6D2 6D3 6D3,FBD3 6AD 6AD 6AD 6AD 6C7 6C7 6C6 6C6 6C8 6C8",
  "FBDE 6CB 6CB 6C5 6C5 6C9 6C9 6D0 6D0 6D0 6D0 649 649,FBFC 6CC 6CC 6CC 6CC,FE10 2C 3001",
  "FE13 3A 3B 21 3F 3016 3017",
  "FE31 2014 2013 5F 5F 28 29 7B 7D 3014 3015 3010 3011 300A 300B 3008 3009,FE47 5B 5D",
  "FE4D 5F 5F 5F 2C 3001,FE54 3B 3A 3F 21 2014 28 29 7B 7D 3014 3015 23 26 2A 2B 2D 3C 3E 3D",
  "FE68 5C 24 25 40",
  "FE80 621 622 622 623 623 624 624 625 625 626 626 626 626 627 627 628 628 628 628 629 629 62A",
  "FE96 62A 62A 62A 62B 62B 62B 62B 62C 62C 62C 62C 62D 62D 62D 62D 62E 62E 62E 62E 62F 62F 630",
  "FEAC 630 631 631 632 632 633 633 633 633 634 634 634 634 635 635 635 635 636 636 636 636 637",
  "FEC2 637 637 637 638 638 638 638 639 639 639 639 63A 63A 63A 63A 641 641 641 641 642 642 642",
  "FED8 642 643 643 643 643 644 644 644 644 645 645 645 645 646 646 646 646 647 647 647 647 648",
  "FEEE 648 649 649 64A 64A 64A 64A",
  "FF5F 2985 2986 2E 300C 300D 3001 30FB 30F2 30A1 30A3 30A5 30A7 30A9 30E3 30E5 30E7 30C3 30FC",
  "FF71 30A2 30A4 30A6 30A8 30AA 30AB 30AD 30AF 30B1 30B3 30B5 30B7 30B9 30BB 30BD 30BF 30C1 30C4",
  "FF83 30C6 30C8,FF8B 30D2 30D5 30D8 30DB,FF94 30E4 30E6,FF9C 30EF 30F3 3099 309A",
  "FFA1 1100 1101 11AA 1102 11AC 11AD,FFB0 111A,FFB4 1121,FFE0 A2 A3 AC,FFE4 A6 A5 20A9,FFE8 2502",
  "FFED 25A0 25CB,10594 105BB 105BC,10781 2D0 2D1 E6 299 253",
  "10787 2A3 AB66 2A5 2A4 256 257 1D91 258 25E 2A9 264 262 260 29B 127 29C 267 284 2AA 2AB 26C",
  "1079C 1DF04 A78E 26E 1DF05 28E 1DF06 F8 276 277 71 27A 1DF08 27D 27E 280 2A8 2A6 AB67 2A7 288",
  "107B0 2C71,107B2 28F 2A1 2A2 298,107B9 1DF0A 1DF1E,1D49C 61,1D49E 63 64,1D4A2 67,1D4A5 6A 6B",
  "1D4BB 66,1D504 61 62,1D538 61 62,1D546 6F,1D6A4 131 237,1D6B9 3B8,1D6C1 2207,1D6D3 3C3",
  "1D6DB 2202 3B5 3B8 3BA 3C6 3C1 3C0,1D6F3 3B8,1D6FB 2207,1D70D 3C3",
  "1D715 2202 3B5 3B8 3BA 3C6 3C1 3C0,1D72D 3B8,1D735 2207,1D747 3C3",
  "1D74F 2202 3B5 3B8 3BA 3C6 3C1 3C0,1D767 3B8,1D76F 2207,1D781 3C3",
  "1D789 2202 3B5 3B8 3BA 3C6 3C1 3C0,1D7A1 3B8,1D7A9 2207,1D7BB 3C3",
  "1D7C3 2202 3B5 3B8 3BA 3C6 3C1 3C0 3DD 3DD,1E047 44B 44D 44E A689 4D9 456 458 4E9 4AF 4CF",
  "1E05A 43A 43B 43E 43F 441,1E065 44A 44B 491 456 455 45F 4AB A651 4B1,1EE00 627 628 62C 62F",
  "1EE05 648 632 62D 637 64A",
  "1EE0E 633 639 641 635 642 631 634 62A 62B 62E 630 636 638 63A 66E 6BA 6A1 66F,1EE21 628 62C",
  "1EE24 647,1EE27 62D,1EE29 64A,1EE2E 633 639 641 635 642,1EE34 634 62A 62B 62E,1EE39 636",
  "1EE3B 63A,1EE42 62C,1EE47 62D,1EE49 64A,1EE4B 644,1EE4D 646 633 639,1EE51 635 642,1EE54 634",
  "1EE57 62E,1EE59 636,1EE5B 63A,1EE5D 6BA,1EE5F 66F,1EE61 628 62C,1EE64 647",
  "1EE67 62D 637 64A 643,1EE6C 645 646 633 639 641 635 642,1EE74 634 62A 62B 62E",
  "1EE79 636 638 63A 66E,1EE7E 6A1,1EE80 627 628 62C 62F 647 648 632 62D 637 64A",
  "1EE8E 633 639 641 635 642 631 634 62A 62B 62E 630 636 638 63A,1EEA1 628 62C 62F",
  "1EEA5 648 632 62D 637 64A,1EEAE 633 639 641 635 642 631 634 62A 62B 62E 630 636 638 63A",
  "1F12B 63 72,1F202 30B5",
  "1F210 624B 5B57 53CC 30C7 4E8C 591A 89E3 5929 4EA4 6620 7121 6599 524D 5F8C 518D 65B0 521D",
  "1F221 7D42 751F 8CA9 58F0 5439 6F14 6295 6355 4E00 4E09 904A 5DE6 4E2D 53F3 6307 8D70 6253",
  "1F232 7981 7A7A 5408 6E80 6709 6708 7533 5272 55B6 914D,1F250 5F97 53EF",
  "2F800 4E3D 4E38 4E41 20122 4F60 4FAE 4FBB 5002 507A 5099 50E7 50CF 349E 2063A 514D 5154 5164",
  "2F811 5177 2051C 34B9 5167 518D 2054B 5197 51A4 4ECC 51AC 51B5 291DF 51F5 5203 34DF 523B 5246",
  "2F822 5272 5277 3515 52C7 52C9 52E4 52FA 5305 5306 5317 5349 5351 535A 5373 537D 537F 537F",
  "2F833 537F 20A2C 7070 53CA 53DF 20B63 53EB 53F1 5406 549E 5438 5448 5468 54A2 54F6 5510 5553",
  "2F844 5563 5584 5584 5599 55AB 55B3 55C2 5716 5606 5717 5651 5674 5207 58EE 57CE 57F4 580D",
  "2F855 578B 5832 5831 58AC 214E4 58F2 58F7 5906 591A 5922 5962 216A8 216EA 59EC 5A1B 5A27 59D8",
  "2F866 5A66 36EE 36FC 5B08 5B3E 5B3E 219C8 5BC3 5BD8 5BE7 5BF3 21B18 5BFF 5C06 5F53 5C22 3781",
  "2F877 5C60 5C6E 5CC0 5C8D 21DE4 5D43 21DE6 5D6E 5D6B 5D7C 5DE1 5DE2 382F 5DFD 5E28 5E3D 5E69",
  "2F888 3862 22183 387C 5EB0 5EB3 5EB6 5ECA 2A392 5EFE 22331 22331 8201 5F22 5F22 38C7 232B8",
  "2F898 261DA 5F62 5F6B 38E3 5F9A 5FCD 5FD7 5FF9 6081 393A 391C 6094 226D4 60C7 6148 614C 614E",
  "2F8A9 614C 617A 618E 61B2 61A4 61AF 61DE 61F2 61F6 6210 621B 625D 62B1 62D4 6350 22B0C 633D",
  "2F8BA 62FC 6368 6383 63E4 22BF1 6422 63C5 63A9 3A2E 6469 647E 649D 6477 3A6C 654F 656C 2300A",
  "2F8CB 65E3 66F8 6649 3B19 6691 3B08 3AE4 5192 5195 6700 669C 80AD 43D9 6717 671B 6721 675E",
  "2F8DC 6753 233C3 3B49 67FA 6785 6852 6885 2346D 688E 681F 6914 3B9D 6942 69A3 69EA 6AA8 236A3",
  "2F8ED 6ADB 3C18 6B21 238A7 6B54 3C4E 6B72 6B9F 6BBA 6BBB 23A8D 21D0B 23AFA 6C4E 23CBC 6CBF",
  "2F8FD 6CCD 6C67 6D16 6D3E 6D77 6D41 6D69 6D78 6D85 23D1E 6D34 6E2F 6E6E 3D33 6ECB 6EC7 23ED1",
  "2F90E 6DF9 6F6E 23F5E 23F8E 6FC6 7039 701E 701B 3D96 704A 707D 7077 70AD 20525 7145 24263 719C",
  "2F91F 243AB 7228 7235 7250 24608 7280 7295 24735 24814 737A 738B 3EAC 73A5 3EB8 3EB8 7447 745C",
  "2F930 7471 7485 74CA 3F1B 7524 24C36 753E 24C92 7570 2219F 7610 24FA1 24FB8 25044 3FFC 4008",
  "2F940 76F4 250F3 250F2 25119 25133 771E 771F 771F 774A 4039 778B 4046 4096 2541D 784E 788C",
  "2F950 78CC 40E3 25626 7956 2569A 256C5 798F 79EB 412F 7A40 7A4A 7A4F 2597C 25AA7 25AA7 7AEE",
  "2F960 4202 25BAB 7BC6 7BC9 4227 25C80 7CD2 42A0 7CE8 7CE3 7D00 25F86 7D63 4301 7DC7 7E02 7E45",
  "2F971 4334 26228 26247 4359 262D9 7F7A 2633E 7F95 7FFA 8005 264DA 26523 8060 265A8 8070 2335F",
  "2F981 43D5 80B2 8103 440B 813E 5AB5 267A7 267B5 23393 2339C 8201 8204 8F9E 446B 8291 828B 829D",
  "2F992 52B3 82B1 82B3 82BD 82E6 26B3C 82E5 831D 8363 83AD 8323 83BD 83E7 8457 8353 83CA 83CC",
  "2F9A3 83DC 26C36 26D6B 26CD5 452B 84F1 84F3 8516 273CA 8564 26F2C 455D 4561 26FB1 270D2 456B",
  "2F9B3 8650 865C 8667 8669 86A9 8688 870E 86E2 8779 8728 876B 8786 45D7 87E1 8801 45F9 8860",
  "2F9C4 8863 27667 88D7 88DE 4635 88FA 34BB 278AE 27966 46BE 46C7 8AA0 8AED 8B8A 8C55 27CA8 8CAB",
  "2F9D5 8CC1 8D1B 8D77 27F2F 20804 8DCB 8DBC 8DF0 208DE 8ED4 8F38 285D2 285ED 9094 90F1 9111",
  "2F9E5 2872E 911B 9238 92D7 92D8 927C 93F9 9415 28BFA 958B 4995 95B7 28D77 49E6 96C3 5DB2 9723",
  "2F9F6 29145 2921A 4A6E 4A76 97E0 2940A 4AB2 29496 980B 980B 9829 295B6 98E2 4B33 9929 99A7",
  "2FA06 99C2 99FE 4BCE 29B30 9B12 9C40 9CFD 4CCE 4CED 9D67 2A0CE 4CF8 2A105 2A20E 2A291 9EBB",
  "2FA16 4D56 9EF9 9EFE 9F05 9F0F 9F16 9F3B 2A600"]

/-- A character, and the text that replaces it. -/
def texts : List (List Nat) := Table.rows [
  "A8 20 308,AF 20 304,B4 20 301,B8 20 327,BC 31 2044 34,BD 31 2044 32,BE 33 2044 34,130 69 307",
  "132 69 6A,133 69 6A,13F 6C B7,140 6C B7,149 2BC 6E,1C4 64 17E,1C5 64 17E,1C6 64 17E,1C7 6C 6A",
  "1C8 6C 6A,1C9 6C 6A,1CA 6E 6A,1CB 6E 6A,1CC 6E 6A,1F1 64 7A,1F2 64 7A,1F3 64 7A,2D8 20 306",
  "2D9 20 307,2DA 20 30A,2DB 20 328,2DC 20 303,2DD 20 30B,344 308 301,37A 20 3B9,384 20 301",
  "385 20 308 301,587 565 582,675 627 674,676 648 674,677 6C7 674,678 64A 674,958 915 93C",
  "959 916 93C,95A 917 93C,95B 91C 93C,95C 921 93C,95D 922 93C,95E 92B 93C,95F 92F 93C",
  "9DC 9A1 9BC,9DD 9A2 9BC,9DF 9AF 9BC,A33 A32 A3C,A36 A38 A3C,A59 A16 A3C,A5A A17 A3C",
  "A5B A1C A3C,A5E A2B A3C,B5C B21 B3C,B5D B22 B3C,E33 E4D E32,EB3 ECD EB2,EDC EAB E99",
  "EDD EAB EA1,F43 F42 FB7,F4D F4C FB7,F52 F51 FB7,F57 F56 FB7,F5C F5B FB7,F69 F40 FB5",
  "F73 F71 F72,F75 F71 F74,F76 FB2 F80,F77 FB2 F71 F80,F78 FB3 F80,F79 FB3 F71 F80,F81 F71 F80",
  "F93 F92 FB7,F9D F9C FB7,FA2 FA1 FB7,FA7 FA6 FB7,FAC FAB FB7,FB9 F90 FB5,1E9A 61 2BE",
  "1F80 1F00 3B9,1F81 1F01 3B9,1F82 1F02 3B9,1F83 1F03 3B9,1F84 1F04 3B9,1F85 1F05 3B9",
  "1F86 1F06 3B9,1F87 1F07 3B9,1F88 1F00 3B9,1F89 1F01 3B9,1F8A 1F02 3B9,1F8B 1F03 3B9",
  "1F8C 1F04 3B9,1F8D 1F05 3B9,1F8E 1F06 3B9,1F8F 1F07 3B9,1F90 1F20 3B9,1F91 1F21 3B9",
  "1F92 1F22 3B9,1F93 1F23 3B9,1F94 1F24 3B9,1F95 1F25 3B9,1F96 1F26 3B9,1F97 1F27 3B9",
  "1F98 1F20 3B9,1F99 1F21 3B9,1F9A 1F22 3B9,1F9B 1F23 3B9,1F9C 1F24 3B9,1F9D 1F25 3B9",
  "1F9E 1F26 3B9,1F9F 1F27 3B9,1FA0 1F60 3B9,1FA1 1F61 3B9,1FA2 1F62 3B9,1FA3 1F63 3B9",
  "1FA4 1F64 3B9,1FA5 1F65 3B9,1FA6 1F66 3B9,1FA7 1F67 3B9,1FA8 1F60 3B9,1FA9 1F61 3B9",
  "1FAA 1F62 3B9,1FAB 1F63 3B9,1FAC 1F64 3B9,1FAD 1F65 3B9,1FAE 1F66 3B9,1FAF 1F67 3B9",
  "1FB2 1F70 3B9,1FB3 3B1 3B9,1FB4 3AC 3B9,1FB7 1FB6 3B9,1FBC 3B1 3B9,1FBD 20 313,1FBF 20 313",
  "1FC0 20 342,1FC1 20 308 342,1FC2 1F74 3B9,1FC3 3B7 3B9,1FC4 3AE 3B9,1FC7 1FC6 3B9,1FCC 3B7 3B9",
  "1FCD 20 313 300,1FCE 20 313 301,1FCF 20 313 342,1FDD 20 314 300,1FDE 20 314 301",
  "1FDF 20 314 342,1FED 20 308 300,1FEE 20 308 301,1FF2 1F7C 3B9,1FF3 3C9 3B9,1FF4 3CE 3B9",
  "1FF7 1FF6 3B9,1FFC 3C9 3B9,1FFD 20 301,1FFE 20 314,2017 20 333,2033 2032 2032",
  "2034 2032 2032 2032,2036 2035 2035,2037 2035 2035 2035,203C 21 21,203E 20 305,2047 3F 3F",
  "2048 3F 21,2049 21 3F,2057 2032 2032 2032 2032,20A8 72 73,2100 61 2F 63,2101 61 2F 73",
  "2103 B0 63,2105 63 2F 6F,2106 63 2F 75,2109 B0 66,2116 6E 6F,2120 73 6D,2121 74 65 6C",
  "2122 74 6D,213B 66 61 78,2150 31 2044 37,2151 31 2044 39,2152 31 2044 31 30,2153 31 2044 33",
  "2154 32 2044 33,2155 31 2044 35,2156 32 2044 35,2157 33 2044 35,2158 34 2044 35",
  "2159 31 2044 36,215A 35 2044 36,215B 31 2044 38,215C 33 2044 38,215D 35 2044 38",
  "215E 37 2044 38,215F 31 2044,2161 69 69,2162 69 69 69,2163 69 76,2165 76 69,2166 76 69 69",
  "2167 76 69 69 69,2168 69 78,216A 78 69,216B 78 69 69,2171 69 69,2172 69 69 69,2173 69 76",
  "2175 76 69,2176 76 69 69,2177 76 69 69 69,2178 69 78,217A 78 69,217B 78 69 69,2189 30 2044 33",
  "222C 222B 222B,222D 222B 222B 222B,222F 222E 222E,2230 222E 222E 222E,2469 31 30,246A 31 31",
  "246B 31 32,246C 31 33,246D 31 34,246E 31 35,246F 31 36,2470 31 37,2471 31 38,2472 31 39",
  "2473 32 30,2474 28 31 29,2475 28 32 29,2476 28 33 29,2477 28 34 29,2478 28 35 29,2479 28 36 29",
  "247A 28 37 29,247B 28 38 29,247C 28 39 29,247D 28 31 30 29,247E 28 31 31 29,247F 28 31 32 29",
  "2480 28 31 33 29,2481 28 31 34 29,2482 28 31 35 29,2483 28 31 36 29,2484 28 31 37 29",
  "2485 28 31 38 29,2486 28 31 39 29,2487 28 32 30 29,249C 28 61 29,249D 28 62 29,249E 28 63 29",
  "249F 28 64 29,24A0 28 65 29,24A1 28 66 29,24A2 28 67 29,24A3 28 68 29,24A4 28 69 29",
  "24A5 28 6A 29,24A6 28 6B 29,24A7 28 6C 29,24A8 28 6D 29,24A9 28 6E 29,24AA 28 6F 29",
  "24AB 28 70 29,24AC 28 71 29,24AD 28 72 29,24AE 28 73 29,24AF 28 74 29,24B0 28 75 29",
  "24B1 28 76 29,24B2 28 77 29,24B3 28 78 29,24B4 28 79 29,24B5 28 7A 29,2A0C 222B 222B 222B 222B",
  "2A74 3A 3A 3D,2A75 3D 3D,2A76 3D 3D 3D,2ADC 2ADD 338,309B 20 3099,309C 20 309A,309F 3088 308A",
  "30FF 30B3 30C8,3200 28 1100 29,3201 28 1102 29,3202 28 1103 29,3203 28 1105 29,3204 28 1106 29",
  "3205 28 1107 29,3206 28 1109 29,3207 28 110B 29,3208 28 110C 29,3209 28 110E 29",
  "320A 28 110F 29,320B 28 1110 29,320C 28 1111 29,320D 28 1112 29,320E 28 AC00 29",
  "320F 28 B098 29,3210 28 B2E4 29,3211 28 B77C 29,3212 28 B9C8 29,3213 28 BC14 29",
  "3214 28 C0AC 29,3215 28 C544 29,3216 28 C790 29,3217 28 CC28 29,3218 28 CE74 29",
  "3219 28 D0C0 29,321A 28 D30C 29,321B 28 D558 29,321C 28 C8FC 29,321D 28 C624 C804 29",
  "321E 28 C624 D6C4 29,3220 28 4E00 29,3221 28 4E8C 29,3222 28 4E09 29,3223 28 56DB 29",
  "3224 28 4E94 29,3225 28 516D 29,3226 28 4E03 29,3227 28 516B 29,3228 28 4E5D 29",
  "3229 28 5341 29,322A 28 6708 29,322B 28 706B 29,322C 28 6C34 29,322D 28 6728 29",
  "322E 28 91D1 29,322F 28 571F 29,3230 28 65E5 29,3231 28 682A 29,3232 28 6709 29",
  "3233 28 793E 29,3234 28 540D 29,3235 28 7279 29,3236 28 8CA1 29,3237 28 795D 29",
  "3238 28 52B4 29,3239 28 4EE3 29,323A 28 547C 29,323B 28 5B66 29,323C 28 76E3 29",
  "323D 28 4F01 29,323E 28 8CC7 29,323F 28 5354 29,3240 28 796D 29,3241 28 4F11 29",
  "3242 28 81EA 29,3243 28 81F3 29,3250 70 74 65,3251 32 31,3252 32 32,3253 32 33,3254 32 34",
  "3255 32 35,3256 32 36,3257 32 37,3258 32 38,3259 32 39,325A 33 30,325B 33 31,325C 33 32",
  "325D 33 33,325E 33 34,325F 33 35,327C CC38 ACE0,327D C8FC C758,32B1 33 36,32B2 33 37",
  "32B3 33 38,32B4 33 39,32B5 34 30,32B6 34 31,32B7 34 32,32B8 34 33,32B9 34 34,32BA 34 35",
  "32BB 34 36,32BC 34 37,32BD 34 38,32BE 34 39,32BF 35 30,32C0 31 6708,32C1 32 6708,32C2 33 6708",
  "32C3 34 6708,32C4 35 6708,32C5 36 6708,32C6 37 6708,32C7 38 6708,32C8 39 6708,32C9 31 30 6708",
  "32CA 31 31 6708,32CB 31 32 6708,32CC 68 67,32CD 65 72 67,32CE 65 76,32CF 6C 74 64",
  "32FF 4EE4 548C,3300 30A2 30D1 30FC 30C8,3301 30A2 30EB 30D5 30A1,3302 30A2 30F3 30DA 30A2",
  "3303 30A2 30FC 30EB,3304 30A4 30CB 30F3 30B0,3305 30A4 30F3 30C1,3306 30A6 30A9 30F3",
  "3307 30A8 30B9 30AF 30FC 30C9,3308 30A8 30FC 30AB 30FC,3309 30AA 30F3 30B9,330A 30AA 30FC 30E0",
  "330B 30AB 30A4 30EA,330C 30AB 30E9 30C3 30C8,330D 30AB 30ED 30EA 30FC,330E 30AC 30ED 30F3",
  "330F 30AC 30F3 30DE,3310 30AE 30AC,3311 30AE 30CB 30FC,3312 30AD 30E5 30EA 30FC",
  "3313 30AE 30EB 30C0 30FC,3314 30AD 30ED,3315 30AD 30ED 30B0 30E9 30E0",
  "3316 30AD 30ED 30E1 30FC 30C8 30EB,3317 30AD 30ED 30EF 30C3 30C8,3318 30B0 30E9 30E0",
  "3319 30B0 30E9 30E0 30C8 30F3,331A 30AF 30EB 30BC 30A4 30ED,331B 30AF 30ED 30FC 30CD",
  "331C 30B1 30FC 30B9,331D 30B3 30EB 30CA,331E 30B3 30FC 30DD,331F 30B5 30A4 30AF 30EB",
  "3320 30B5 30F3 30C1 30FC 30E0,3321 30B7 30EA 30F3 30B0,3322 30BB 30F3 30C1,3323 30BB 30F3 30C8",
  "3324 30C0 30FC 30B9,3325 30C7 30B7,3326 30C9 30EB,3327 30C8 30F3,3328 30CA 30CE",
  "3329 30CE 30C3 30C8,332A 30CF 30A4 30C4,332B 30D1 30FC 30BB 30F3 30C8,332C 30D1 30FC 30C4",
  "332D 30D0 30FC 30EC 30EB,332E 30D4 30A2 30B9 30C8 30EB,332F 30D4 30AF 30EB,3330 30D4 30B3",
  "3331 30D3 30EB,3332 30D5 30A1 30E9 30C3 30C9,3333 30D5 30A3 30FC 30C8",
  "3334 30D6 30C3 30B7 30A7 30EB,3335 30D5 30E9 30F3,3336 30D8 30AF 30BF 30FC 30EB,3337 30DA 30BD",
  "3338 30DA 30CB 30D2,3339 30D8 30EB 30C4,333A 30DA 30F3 30B9,333B 30DA 30FC 30B8",
  "333C 30D9 30FC 30BF,333D 30DD 30A4 30F3 30C8,333E 30DC 30EB 30C8,333F 30DB 30F3",
  "3340 30DD 30F3 30C9,3341 30DB 30FC 30EB,3342 30DB 30FC 30F3,3343 30DE 30A4 30AF 30ED",
  "3344 30DE 30A4 30EB,3345 30DE 30C3 30CF,3346 30DE 30EB 30AF,3347 30DE 30F3 30B7 30E7 30F3",
  "3348 30DF 30AF 30ED 30F3,3349 30DF 30EA,334A 30DF 30EA 30D0 30FC 30EB,334B 30E1 30AC",
  "334C 30E1 30AC 30C8 30F3,334D 30E1 30FC 30C8 30EB,334E 30E4 30FC 30C9,334F 30E4 30FC 30EB",
  "3350 30E6 30A2 30F3,3351 30EA 30C3 30C8 30EB,3352 30EA 30E9,3353 30EB 30D4 30FC",
  "3354 30EB 30FC 30D6 30EB,3355 30EC 30E0,3356 30EC 30F3 30C8 30B2 30F3,3357 30EF 30C3 30C8",
  "3358 30 70B9,3359 31 70B9,335A 32 70B9,335B 33 70B9,335C 34 70B9,335D 35 70B9,335E 36 70B9",
  "335F 37 70B9,3360 38 70B9,3361 39 70B9,3362 31 30 70B9,3363 31 31 70B9,3364 31 32 70B9",
  "3365 31 33 70B9,3366 31 34 70B9,3367 31 35 70B9,3368 31 36 70B9,3369 31 37 70B9",
  "336A 31 38 70B9,336B 31 39 70B9,336C 32 30 70B9,336D 32 31 70B9,336E 32 32 70B9",
  "336F 32 33 70B9,3370 32 34 70B9,3371 68 70 61,3372 64 61,3373 61 75,3374 62 61 72,3375 6F 76",
  "3376 70 63,3377 64 6D,3378 64 6D 32,3379 64 6D 33,337A 69 75,337B 5E73 6210,337C 662D 548C",
  "337D 5927 6B63,337E 660E 6CBB,337F 682A 5F0F 4F1A 793E,3380 70 61,3381 6E 61,3382 3BC 61",
  "3383 6D 61,3384 6B 61,3385 6B 62,3386 6D 62,3387 67 62,3388 63 61 6C,3389 6B 63 61 6C",
  "338A 70 66,338B 6E 66,338C 3BC 66,338D 3BC 67,338E 6D 67,338F 6B 67,3390 68 7A,3391 6B 68 7A",
  "3392 6D 68 7A,3393 67 68 7A,3394 74 68 7A,3395 3BC 6C,3396 6D 6C,3397 64 6C,3398 6B 6C",
  "3399 66 6D,339A 6E 6D,339B 3BC 6D,339C 6D 6D,339D 63 6D,339E 6B 6D,339F 6D 6D 32,33A0 63 6D 32",
  "33A1 6D 32,33A2 6B 6D 32,33A3 6D 6D 33,33A4 63 6D 33,33A5 6D 33,33A6 6B 6D 33,33A7 6D 2215 73",
  "33A8 6D 2215 73 32,33A9 70 61,33AA 6B 70 61,33AB 6D 70 61,33AC 67 70 61,33AD 72 61 64",
  "33AE 72 61 64 2215 73,33AF 72 61 64 2215 73 32,33B0 70 73,33B1 6E 73,33B2 3BC 73,33B3 6D 73",
  "33B4 70 76,33B5 6E 76,33B6 3BC 76,33B7 6D 76,33B8 6B 76,33B9 6D 76,33BA 70 77,33BB 6E 77",
  "33BC 3BC 77,33BD 6D 77,33BE 6B 77,33BF 6D 77,33C0 6B 3C9,33C1 6D 3C9,33C3 62 71,33C4 63 63",
  "33C5 63 64,33C6 63 2215 6B 67,33C8 64 62,33C9 67 79,33CA 68 61,33CB 68 70,33CC 69 6E",
  "33CD 6B 6B,33CE 6B 6D,33CF 6B 74,33D0 6C 6D,33D1 6C 6E,33D2 6C 6F 67,33D3 6C 78,33D4 6D 62",
  "33D5 6D 69 6C,33D6 6D 6F 6C,33D7 70 68,33D9 70 70 6D,33DA 70 72,33DB 73 72,33DC 73 76",
  "33DD 77 62,33DE 76 2215 6D,33DF 61 2215 6D,33E0 31 65E5,33E1 32 65E5,33E2 33 65E5,33E3 34 65E5",
  "33E4 35 65E5,33E5 36 65E5,33E6 37 65E5,33E7 38 65E5,33E8 39 65E5,33E9 31 30 65E5",
  "33EA 31 31 65E5,33EB 31 32 65E5,33EC 31 33 65E5,33ED 31 34 65E5,33EE 31 35 65E5",
  "33EF 31 36 65E5,33F0 31 37 65E5,33F1 31 38 65E5,33F2 31 39 65E5,33F3 32 30 65E5",
  "33F4 32 31 65E5,33F5 32 32 65E5,33F6 32 33 65E5,33F7 32 34 65E5,33F8 32 35 65E5",
  "33F9 32 36 65E5,33FA 32 37 65E5,33FB 32 38 65E5,33FC 32 39 65E5,33FD 33 30 65E5",
  "33FE 33 31 65E5,33FF 67 61 6C,FB00 66 66,FB01 66 69,FB02 66 6C,FB03 66 66 69,FB04 66 66 6C",
  "FB05 73 74,FB06 73 74,FB13 574 576,FB14 574 565,FB15 574 56B,FB16 57E 576,FB17 574 56D",
  "FB1D 5D9 5B4,FB1F 5F2 5B7,FB2A 5E9 5C1,FB2B 5E9 5C2,FB2C 5E9 5BC 5C1,FB2D 5E9 5BC 5C2",
  "FB2E 5D0 5B7,FB2F 5D0 5B8,FB30 5D0 5BC,FB31 5D1 5BC,FB32 5D2 5BC,FB33 5D3 5BC,FB34 5D4 5BC",
  "FB35 5D5 5BC,FB36 5D6 5BC,FB38 5D8 5BC,FB39 5D9 5BC,FB3A 5DA 5BC,FB3B 5DB 5BC,FB3C 5DC 5BC",
  "FB3E 5DE 5BC,FB40 5E0 5BC,FB41 5E1 5BC,FB43 5E3 5BC,FB44 5E4 5BC,FB46 5E6 5BC,FB47 5E7 5BC",
  "FB48 5E8 5BC,FB49 5E9 5BC,FB4A 5EA 5BC,FB4B 5D5 5B9,FB4C 5D1 5BF,FB4D 5DB 5BF,FB4E 5E4 5BF",
  "FB4F 5D0 5DC,FBDD 6C7 674,FBEA 626 627,FBEB 626 627,FBEC 626 6D5,FBED 626 6D5,FBEE 626 648",
  "FBEF 626 648,FBF0 626 6C7,FBF1 626 6C7,FBF2 626 6C6,FBF3 626 6C6,FBF4 626 6C8,FBF5 626 6C8",
  "FBF6 626 6D0,FBF7 626 6D0,FBF8 626 6D0,FBF9 626 649,FBFA 626 649,FBFB 626 649,FC00 626 62C",
  "FC01 626 62D,FC02 626 645,FC03 626 649,FC04 626 64A,FC05 628 62C,FC06 628 62D,FC07 628 62E",
  "FC08 628 645,FC09 628 649,FC0A 628 64A,FC0B 62A 62C,FC0C 62A 62D,FC0D 62A 62E,FC0E 62A 645",
  "FC0F 62A 649,FC10 62A 64A,FC11 62B 62C,FC12 62B 645,FC13 62B 649,FC14 62B 64A,FC15 62C 62D",
  "FC16 62C 645,FC17 62D 62C,FC18 62D 645,FC19 62E 62C,FC1A 62E 62D,FC1B 62E 645,FC1C 633 62C",
  "FC1D 633 62D,FC1E 633 62E,FC1F 633 645,FC20 635 62D,FC21 635 645,FC22 636 62C,FC23 636 62D",
  "FC24 636 62E,FC25 636 645,FC26 637 62D,FC27 637 645,FC28 638 645,FC29 639 62C,FC2A 639 645",
  "FC2B 63A 62C,FC2C 63A 645,FC2D 641 62C,FC2E 641 62D,FC2F 641 62E,FC30 641 645,FC31 641 649",
  "FC32 641 64A,FC33 642 62D,FC34 642 645,FC35 642 649,FC36 642 64A,FC37 643 627,FC38 643 62C",
  "FC39 643 62D,FC3A 643 62E,FC3B 643 644,FC3C 643 645,FC3D 643 649,FC3E 643 64A,FC3F 644 62C",
  "FC40 644 62D,FC41 644 62E,FC42 644 645,FC43 644 649,FC44 644 64A,FC45 645 62C,FC46 645 62D",
  "FC47 645 62E,FC48 645 645,FC49 645 649,FC4A 645 64A,FC4B 646 62C,FC4C 646 62D,FC4D 646 62E",
  "FC4E 646 645,FC4F 646 649,FC50 646 64A,FC51 647 62C,FC52 647 645,FC53 647 649,FC54 647 64A",
  "FC55 64A 62C,FC56 64A 62D,FC57 64A 62E,FC58 64A 645,FC59 64A 649,FC5A 64A 64A,FC5B 630 670",
  "FC5C 631 670,FC5D 649 670,FC5E 20 64C 651,FC5F 20 64D 651,FC60 20 64E 651,FC61 20 64F 651",
  "FC62 20 650 651,FC63 20 651 670,FC64 626 631,FC65 626 632,FC66 626 645,FC67 626 646",
  "FC68 626 649,FC69 626 64A,FC6A 628 631,FC6B 628 632,FC6C 628 645,FC6D 628 646,FC6E 628 649",
  "FC6F 628 64A,FC70 62A 631,FC71 62A 632,FC72 62A 645,FC73 62A 646,FC74 62A 649,FC75 62A 64A",
  "FC76 62B 631,FC77 62B 632,FC78 62B 645,FC79 62B 646,FC7A 62B 649,FC7B 62B 64A,FC7C 641 649",
  "FC7D 641 64A,FC7E 642 649,FC7F 642 64A,FC80 643 627,FC81 643 644,FC82 643 645,FC83 643 649",
  "FC84 643 64A,FC85 644 645,FC86 644 649,FC87 644 64A,FC88 645 627,FC89 645 645,FC8A 646 631",
  "FC8B 646 632,FC8C 646 645,FC8D 646 646,FC8E 646 649,FC8F 646 64A,FC90 649 670,FC91 64A 631",
  "FC92 64A 632,FC93 64A 645,FC94 64A 646,FC95 64A 649,FC96 64A 64A,FC97 626 62C,FC98 626 62D",
  "FC99 626 62E,FC9A 626 645,FC9B 626 647,FC9C 628 62C,FC9D 628 62D,FC9E 628 62E,FC9F 628 645",
  "FCA0 628 647,FCA1 62A 62C,FCA2 62A 62D,FCA3 62A 62E,FCA4 62A 645,FCA5 62A 647,FCA6 62B 645",
  "FCA7 62C 62D,FCA8 62C 645,FCA9 62D 62C,FCAA 62D 645,FCAB 62E 62C,FCAC 62E 645,FCAD 633 62C",
  "FCAE 633 62D,FCAF 633 62E,FCB0 633 645,FCB1 635 62D,FCB2 635 62E,FCB3 635 645,FCB4 636 62C",
  "FCB5 636 62D,FCB6 636 62E,FCB7 636 645,FCB8 637 62D,FCB9 638 645,FCBA 639 62C,FCBB 639 645",
  "FCBC 63A 62C,FCBD 63A 645,FCBE 641 62C,FCBF 641 62D,FCC0 641 62E,FCC1 641 645,FCC2 642 62D",
  "FCC3 642 645,FCC4 643 62C,FCC5 643 62D,FCC6 643 62E,FCC7 643 644,FCC8 643 645,FCC9 644 62C",
  "FCCA 644 62D,FCCB 644 62E,FCCC 644 645,FCCD 644 647,FCCE 645 62C,FCCF 645 62D,FCD0 645 62E",
  "FCD1 645 645,FCD2 646 62C,FCD3 646 62D,FCD4 646 62E,FCD5 646 645,FCD6 646 647,FCD7 647 62C",
  "FCD8 647 645,FCD9 647 670,FCDA 64A 62C,FCDB 64A 62D,FCDC 64A 62E,FCDD 64A 645,FCDE 64A 647",
  "FCDF 626 645,FCE0 626 647,FCE1 628 645,FCE2 628 647,FCE3 62A 645,FCE4 62A 647,FCE5 62B 645",
  "FCE6 62B 647,FCE7 633 645,FCE8 633 647,FCE9 634 645,FCEA 634 647,FCEB 643 644,FCEC 643 645",
  "FCED 644 645,FCEE 646 645,FCEF 646 647,FCF0 64A 645,FCF1 64A 647,FCF2 640 64E 651",
  "FCF3 640 64F 651,FCF4 640 650 651,FCF5 637 649,FCF6 637 64A,FCF7 639 649,FCF8 639 64A",
  "FCF9 63A 649,FCFA 63A 64A,FCFB 633 649,FCFC 633 64A,FCFD 634 649,FCFE 634 64A,FCFF 62D 649",
  "FD00 62D 64A,FD01 62C 649,FD02 62C 64A,FD03 62E 649,FD04 62E 64A,FD05 635 649,FD06 635 64A",
  "FD07 636 649,FD08 636 64A,FD09 634 62C,FD0A 634 62D,FD0B 634 62E,FD0C 634 645,FD0D 634 631",
  "FD0E 633 631,FD0F 635 631,FD10 636 631,FD11 637 649,FD12 637 64A,FD13 639 649,FD14 639 64A",
  "FD15 63A 649,FD16 63A 64A,FD17 633 649,FD18 633 64A,FD19 634 649,FD1A 634 64A,FD1B 62D 649",
  "FD1C 62D 64A,FD1D 62C 649,FD1E 62C 64A,FD1F 62E 649,FD20 62E 64A,FD21 635 649,FD22 635 64A",
  "FD23 636 649,FD24 636 64A,FD25 634 62C,FD26 634 62D,FD27 634 62E,FD28 634 645,FD29 634 631",
  "FD2A 633 631,FD2B 635 631,FD2C 636 631,FD2D 634 62C,FD2E 634 62D,FD2F 634 62E,FD30 634 645",
  "FD31 633 647,FD32 634 647,FD33 637 645,FD34 633 62C,FD35 633 62D,FD36 633 62E,FD37 634 62C",
  "FD38 634 62D,FD39 634 62E,FD3A 637 645,FD3B 638 645,FD3C 627 64B,FD3D 627 64B,FD50 62A 62C 645",
  "FD51 62A 62D 62C,FD52 62A 62D 62C,FD53 62A 62D 645,FD54 62A 62E 645,FD55 62A 645 62C",
  "FD56 62A 645 62D,FD57 62A 645 62E,FD58 62C 645 62D,FD59 62C 645 62D,FD5A 62D 645 64A",
  "FD5B 62D 645 649,FD5C 633 62D 62C,FD5D 633 62C 62D,FD5E 633 62C 649,FD5F 633 645 62D",
  "FD60 633 645 62D,FD61 633 645 62C,FD62 633 645 645,FD63 633 645 645,FD64 635 62D 62D",
  "FD65 635 62D 62D,FD66 635 645 645,FD67 634 62D 645,FD68 634 62D 645,FD69 634 62C 64A",
  "FD6A 634 645 62E,FD6B 634 645 62E,FD6C 634 645 645,FD6D 634 645 645,FD6E 636 62D 649",
  "FD6F 636 62E 645,FD70 636 62E 645,FD71 637 645 62D,FD72 637 645 62D,FD73 637 645 645",
  "FD74 637 645 64A,FD75 639 62C 645,FD76 639 645 645,FD77 639 645 645,FD78 639 645 649",
  "FD79 63A 645 645,FD7A 63A 645 64A,FD7B 63A 645 649,FD7C 641 62E 645,FD7D 641 62E 645",
  "FD7E 642 645 62D,FD7F 642 645 645,FD80 644 62D 645,FD81 644 62D 64A,FD82 644 62D 649",
  "FD83 644 62C 62C,FD84 644 62C 62C,FD85 644 62E 645,FD86 644 62E 645,FD87 644 645 62D",
  "FD88 644 645 62D,FD89 645 62D 62C,FD8A 645 62D 645,FD8B 645 62D 64A,FD8C 645 62C 62D",
  "FD8D 645 62C 645,FD8E 645 62E 62C,FD8F 645 62E 645,FD92 645 62C 62E,FD93 647 645 62C",
  "FD94 647 645 645,FD95 646 62D 645,FD96 646 62D 649,FD97 646 62C 645,FD98 646 62C 645",
  "FD99 646 62C 649,FD9A 646 645 64A,FD9B 646 645 649,FD9C 64A 645 645,FD9D 64A 645 645",
  "FD9E 628 62E 64A,FD9F 62A 62C 64A,FDA0 62A 62C 649,FDA1 62A 62E 64A,FDA2 62A 62E 649",
  "FDA3 62A 645 64A,FDA4 62A 645 649,FDA5 62C 645 64A,FDA6 62C 62D 649,FDA7 62C 645 649",
  "FDA8 633 62E 649,FDA9 635 62D 64A,FDAA 634 62D 64A,FDAB 636 62D 64A,FDAC 644 62C 64A",
  "FDAD 644 645 64A,FDAE 64A 62D 64A,FDAF 64A 62C 64A,FDB0 64A 645 64A,FDB1 645 645 64A",
  "FDB2 642 645 64A,FDB3 646 62D 64A,FDB4 642 645 62D,FDB5 644 62D 645,FDB6 639 645 64A",
  "FDB7 643 645 64A,FDB8 646 62C 62D,FDB9 645 62E 64A,FDBA 644 62C 645,FDBB 643 645 645",
  "FDBC 644 62C 645,FDBD 646 62C 62D,FDBE 62C 62D 64A,FDBF 62D 62C 64A,FDC0 645 62C 64A",
  "FDC1 641 645 64A,FDC2 628 62D 64A,FDC3 643 645 645,FDC4 639 62C 645,FDC5 635 645 645",
  "FDC6 633 62E 64A,FDC7 646 62C 64A,FDF0 635 644 6D2,FDF1 642 644 6D2,FDF2 627 644 644 647",
  "FDF3 627 643 628 631,FDF4 645 62D 645 62F,FDF5 635 644 639 645,FDF6 631 633 648 644",
  "FDF7 639 644 64A 647,FDF8 648 633 644 645,FDF9 635 644 649",
  "FDFA 635 644 649 20 627 644 644 647 20 639 644 64A 647 20 648 633 644 645",
  "FDFB 62C 644 20 62C 644 627 644 647,FDFC 631 6CC 627 644,FE49 20 305,FE4A 20 305,FE4B 20 305",
  "FE4C 20 305,FE70 20 64B,FE71 640 64B,FE72 20 64C,FE74 20 64D,FE76 20 64E,FE77 640 64E",
  "FE78 20 64F,FE79 640 64F,FE7A 20 650,FE7B 640 650,FE7C 20 651,FE7D 640 651,FE7E 20 652",
  "FE7F 640 652,FEF5 644 622,FEF6 644 622,FEF7 644 623,FEF8 644 623,FEF9 644 625,FEFA 644 625",
  "FEFB 644 627,FEFC 644 627,FFE3 20 304,1D15E 1D157 1D165,1D15F 1D158 1D165",
  "1D160 1D158 1D165 1D16E,1D161 1D158 1D165 1D16F,1D162 1D158 1D165 1D170",
  "1D163 1D158 1D165 1D171,1D164 1D158 1D165 1D172,1D1BB 1D1B9 1D165,1D1BC 1D1BA 1D165",
  "1D1BD 1D1B9 1D165 1D16E,1D1BE 1D1BA 1D165 1D16E,1D1BF 1D1B9 1D165 1D16F",
  "1D1C0 1D1BA 1D165 1D16F,1F101 30 2C,1F102 31 2C,1F103 32 2C,1F104 33 2C,1F105 34 2C",
  "1F106 35 2C,1F107 36 2C,1F108 37 2C,1F109 38 2C,1F10A 39 2C,1F110 28 61 29,1F111 28 62 29",
  "1F112 28 63 29,1F113 28 64 29,1F114 28 65 29,1F115 28 66 29,1F116 28 67 29,1F117 28 68 29",
  "1F118 28 69 29,1F119 28 6A 29,1F11A 28 6B 29,1F11B 28 6C 29,1F11C 28 6D 29,1F11D 28 6E 29",
  "1F11E 28 6F 29,1F11F 28 70 29,1F120 28 71 29,1F121 28 72 29,1F122 28 73 29,1F123 28 74 29",
  "1F124 28 75 29,1F125 28 76 29,1F126 28 77 29,1F127 28 78 29,1F128 28 79 29,1F129 28 7A 29",
  "1F12A 3014 73 3015,1F12D 63 64,1F12E 77 7A,1F14A 68 76,1F14B 6D 76,1F14C 73 64,1F14D 73 73",
  "1F14E 70 70 76,1F14F 77 63,1F16A 6D 63,1F16B 6D 64,1F16C 6D 72,1F190 64 6A,1F200 307B 304B",
  "1F201 30B3 30B3,1F240 3014 672C 3015,1F241 3014 4E09 3015,1F242 3014 4E8C 3015",
  "1F243 3014 5B89 3015,1F244 3014 70B9 3015,1F245 3014 6253 3015,1F246 3014 76D7 3015",
  "1F247 3014 52DD 3015,1F248 3014 6557 3015"]

def shifted? (n : Nat) : Option Nat :=
  shifts.findSome? fun row =>
    match row with
    | [start, count, target] =>
      if start ≤ n ∧ n < start + count then some (target + (n - start)) else none
    | _ => none

def neighbour? (n : Nat) : Option Nat :=
  neighbours.findSome? fun row =>
    match row with
    | [start, count] =>
      if start ≤ n ∧ n < start + 2 * count ∧ (n - start) % 2 = 0 then some (n + 1) else none
    | _ => none

def replacement? (n : Nat) : Option Nat :=
  replacements.findSome? fun row =>
    match row with
    | start :: targets => if start ≤ n then targets[n - start]? else none
    | [] => none

def text? (n : Nat) : Option (List Nat) :=
  texts.findSome? fun row =>
    match row with
    | source :: text => if source = n then some text else none
    | [] => none

/-- How a character is spelled, if it is one that a domain may be written with. -/
def spelling? (c : Char) : Option (List Char) :=
  if letters.contains c then some [c]
  else if ignored.contains c then some []
  else
    let n := c.toNat
    let one? := shifted? n <|> neighbour? n <|> replacement? n
    ((one?.map ([·])) <|> text? n).map (·.map Char.ofNat)

end ChequeTeller.Url.Domain.Alphabet
