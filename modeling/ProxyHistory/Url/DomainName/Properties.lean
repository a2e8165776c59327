import ProxyHistory.Text.Packed

/-!
# Properties of domain name characters

The properties that the rules on the characters of a label ask for: marks, joining behaviour and
direction of writing.
-/

namespace ProxyHistory.DomainName

/-- Characters that combine with the one before them. -/
def markRanges : List (Nat × Nat) :=
  Text.Packed.pairs [
    "300 36F 483 489 591 5BD 5BF 5BF 5C1 5C2 5C4 5C5 5C7 5C7 610 61A 64B 65F 670 670 6D6 6DC",
    "6DF 6E4 6E7 6E8 6EA 6ED 711 711 730 74A 7A6 7B0 7EB 7F3 7FD 7FD 816 819 81B 823 825 827",
    "829 82D 859 85B 897 89F 8CA 8E1 8E3 903 93A 93C 93E 94F 951 957 962 963 981 983 9BC 9BC",
    "9BE 9C4 9C7 9C8 9CB 9CD 9D7 9D7 9E2 9E3 9FE 9FE A01 A03 A3C A3C A3E A42 A47 A48 A4B A4D",
    "A51 A51 A70 A71 A75 A75 A81 A83 ABC ABC ABE AC5 AC7 AC9 ACB ACD AE2 AE3 AFA AFF B01 B03",
    "B3C B3C B3E B44 B47 B48 B4B B4D B55 B57 B62 B63 B82 B82 BBE BC2 BC6 BC8 BCA BCD BD7 BD7",
    "C00 C04 C3C C3C C3E C44 C46 C48 C4A C4D C55 C56 C62 C63 C81 C83 CBC CBC CBE CC4 CC6 CC8",
    "CCA CCD CD5 CD6 CE2 CE3 CF3 CF3 D00 D03 D3B D3C D3E D44 D46 D48 D4A D4D D57 D57 D62 D63",
    "D81 D83 DCA DCA DCF DD4 DD6 DD6 DD8 DDF DF2 DF3 E31 E31 E34 E3A E47 E4E EB1 EB1 EB4 EBC",
    "EC8 ECE F18 F19 F35 F35 F37 F37 F39 F39 F3E F3F F71 F84 F86 F87 F8D F97 F99 FBC FC6 FC6",
    "102B 103E 1056 1059 105E 1060 1062 1064 1067 106D 1071 1074 1082 108D 108F 108F 109A 109D",
    "135D 135F 1712 1715 1732 1734 1752 1753 1772 1773 17B4 17D3 17DD 17DD 180B 180D 180F 180F",
    "1885 1886 18A9 18A9 1920 192B 1930 193B 1A17 1A1B 1A55 1A5E 1A60 1A7C 1A7F 1A7F 1AB0 1ADD",
    "1AE0 1AEB 1B00 1B04 1B34 1B44 1B6B 1B73 1B80 1B82 1BA1 1BAD 1BE6 1BF3 1C24 1C37 1CD0 1CD2",
    "1CD4 1CE8 1CED 1CED 1CF4 1CF4 1CF7 1CF9 1DC0 1DFF 20D0 20F0 2CEF 2CF1 2D7F 2D7F 2DE0 2DFF",
    "302A 302F 3099 309A A66F A672 A674 A67D A69E A69F A6F0 A6F1 A802 A802 A806 A806 A80B A80B",
    "A823 A827 A82C A82C A880 A881 A8B4 A8C5 A8E0 A8F1 A8FF A8FF A926 A92D A947 A953 A980 A983",
    "A9B3 A9C0 A9E5 A9E5 AA29 AA36 AA43 AA43 AA4C AA4D AA7B AA7D AAB0 AAB0 AAB2 AAB4 AAB7 AAB8",
    "AABE AABF AAC1 AAC1 AAEB AAEF AAF5 AAF6 ABE3 ABEA ABEC ABED FB1E FB1E FE00 FE0F FE20 FE2F",
    "101FD 101FD 102E0 102E0 10376 1037A 10A01 10A03 10A05 10A06 10A0C 10A0F 10A38 10A3A 10A3F",
    "10A3F 10AE5 10AE6 10D24 10D27 10D69 10D6D 10EAB 10EAC 10EFA 10EFF 10F46 10F50 10F82 10F85",
    "11000 11002 11038 11046 11070 11070 11073 11074 1107F 11082 110B0 110BA 110C2 110C2 11100",
    "11102 11127 11134 11145 11146 11173 11173 11180 11182 111B3 111C0 111C9 111CC 111CE 111CF",
    "1122C 11237 1123E 1123E 11241 11241 112DF 112EA 11300 11303 1133B 1133C 1133E 11344 11347",
    "11348 1134B 1134D 11357 11357 11362 11363 11366 1136C 11370 11374 113B8 113C0 113C2 113C2",
    "113C5 113C5 113C7 113CA 113CC 113D0 113D2 113D2 113E1 113E2 11435 11446 1145E 1145E 114B0",
    "114C3 115AF 115B5 115B8 115C0 115DC 115DD 11630 11640 116AB 116B7 1171D 1172B 1182C 1183A",
    "11930 11935 11937 11938 1193B 1193E 11940 11940 11942 11943 119D1 119D7 119DA 119E0 119E4",
    "119E4 11A01 11A0A 11A33 11A39 11A3B 11A3E 11A47 11A47 11A51 11A5B 11A8A 11A99 11B60 11B67",
    "11C2F 11C36 11C38 11C3F 11C92 11CA7 11CA9 11CB6 11D31 11D36 11D3A 11D3A 11D3C 11D3D 11D3F",
    "11D45 11D47 11D47 11D8A 11D8E 11D90 11D91 11D93 11D97 11EF3 11EF6 11F00 11F01 11F03 11F03",
    "11F34 11F3A 11F3E 11F42 11F5A 11F5A 13440 13440 13447 13455 1611E 1612F 16AF0 16AF4 16B30",
    "16B36 16F4F 16F4F 16F51 16F87 16F8F 16F92 16FE4 16FE4 16FF0 16FF1 1BC9D 1BC9E 1CF00 1CF2D",
    "1CF30 1CF46 1D165 1D169 1D16D 1D172 1D17B 1D182 1D185 1D18B 1D1AA 1D1AD 1D242 1D244 1DA00",
    "1DA36 1DA3B 1DA6C 1DA75 1DA75 1DA84 1DA84 1DA9B 1DA9F 1DAA1 1DAAF 1E000 1E006 1E008 1E018",
    "1E01B 1E021 1E023 1E024 1E026 1E02A 1E08F 1E08F 1E130 1E136 1E2AE 1E2AE 1E2EC 1E2EF 1E4EC",
    "1E4EF 1E5EE 1E5EF 1E6E3 1E6E3 1E6E6 1E6E6 1E6EE 1E6EF 1E6F5 1E6F5 1E8D0 1E8D6 1E944 1E94A",
    "E0100 E01EF"]

/-- Characters that join with the one before them only. -/
def joinsRightRanges : List (Nat × Nat) :=
  Text.Packed.pairs [
    "622 625 627 627 629 629 62F 632 648 648 671 673 675 677 688 699 6C0 6C0 6C3 6CB 6CD 6CD",
    "6CF 6CF 6D2 6D3 6D5 6D5 6EE 6EF 710 710 715 719 71E 71E 728 728 72A 72A 72C 72C 72F 72F",
    "74D 74D 759 75B 76B 76C 771 771 773 774 778 779 840 840 846 847 849 849 854 854 856 858",
    "867 867 869 86A 870 882 88E 88E 8AA 8AC 8AE 8AE 8B1 8B2 8B9 8B9 10AC5 10AC5 10AC7 10AC7",
    "10AC9 10ACA 10ACE 10AD2 10ADD 10ADD 10AE1 10AE1 10AE4 10AE4 10AEF 10AEF 10B81 10B81 10B83",
    "10B85 10B89 10B89 10B8C 10B8C 10B8E 10B8F 10B91 10B91 10BA9 10BAC 10D22 10D22 10F33 10F33",
    "10F54 10F54 10F74 10F75 10FB4 10FB6 10FB9 10FBA 10FBD 10FBD 10FC2 10FC3 10FC9 10FC9"]

/-- Characters that join with the one after them only. -/
def joinsLeftRanges : List (Nat × Nat) :=
  Text.Packed.pairs [
    "A872 A872 10ACD 10ACD 10AD7 10AD7 10D00 10D00 10FCB 10FCB"]

/-- Characters that join on both sides. -/
def joinsBothRanges : List (Nat × Nat) :=
  Text.Packed.pairs [
    "620 620 626 626 628 628 62A 62E 633 63F 641 647 649 64A 66E 66F 678 687 69A 6BF 6C1 6C2",
    "6CC 6CC 6CE 6CE 6D0 6D1 6FA 6FC 6FF 6FF 712 714 71A 71D 71F 727 729 729 72B 72B 72D 72E",
    "74E 758 75C 76A 76D 770 772 772 775 777 77A 77F 7CA 7EA 841 845 848 848 84A 853 855 855",
    "860 860 862 865 868 868 886 886 889 88D 8A0 8A9 8AF 8B0 8B3 8B8 8BA 8C8 1807 1807 1820",
    "1878 1887 18A8 18AA 18AA A840 A871 10AC0 10AC4 10AD3 10AD6 10AD8 10ADC 10ADE 10AE0 10AEB",
    "10AEE 10B80 10B80 10B82 10B82 10B86 10B88 10B8A 10B8B 10B8D 10B8D 10B90 10B90 10BAD 10BAE",
    "10D01 10D21 10D23 10D23 10F30 10F32 10F34 10F44 10F51 10F53 10F70 10F73 10F76 10F81 10FB0",
    "10FB0 10FB2 10FB3 10FB8 10FB8 10FBB 10FBC 10FBE 10FBF 10FC1 10FC1 10FC4 10FC4 10FCA 10FCA",
    "1E900 1E943"]

/-- Characters that are passed over where others join. -/
def transparentRanges : List (Nat × Nat) :=
  Text.Packed.pairs [
    "AD AD 300 36F 483 489 591 5BD 5BF 5BF 5C1 5C2 5C4 5C5 5C7 5C7 610 61A 61C 61C 64B 65F 670",
    "670 6D6 6DC 6DF 6E4 6E7 6E8 6EA 6ED 70F 70F 711 711 730 74A 7A6 7B0 7EB 7F3 7FD 7FD 816",
    "819 81B 823 825 827 829 82D 859 85B 898 89F 8CA 8E1 8E3 902 93A 93A 93C 93C 941 948 94D",
    "94D 951 957 962 963 981 981 9BC 9BC 9C1 9C4 9CD 9CD 9E2 9E3 9FE 9FE A01 A02 A3C A3C A41",
    "A42 A47 A48 A4B A4D A51 A51 A70 A71 A75 A75 A81 A82 ABC ABC AC1 AC5 AC7 AC8 ACD ACD AE2",
    "AE3 AFA AFF B01 B01 B3C B3C B3F B3F B41 B44 B4D B4D B55 B56 B62 B63 B82 B82 BC0 BC0 BCD",
    "BCD C00 C00 C04 C04 C3C C3C C3E C40 C46 C48 C4A C4D C55 C56 C62 C63 C81 C81 CBC CBC CBF",
    "CBF CC6 CC6 CCC CCD CE2 CE3 D00 D01 D3B D3C D41 D44 D4D D4D D62 D63 D81 D81 DCA DCA DD2",
    "DD4 DD6 DD6 E31 E31 E34 E3A E47 E4E EB1 EB1 EB4 EBC EC8 ECE F18 F19 F35 F35 F37 F37 F39",
    "F39 F71 F7E F80 F84 F86 F87 F8D F97 F99 FBC FC6 FC6 102D 1030 1032 1037 1039 103A 103D",
    "103E 1058 1059 105E 1060 1071 1074 1082 1082 1085 1086 108D 108D 109D 109D 135D 135F 1712",
    "1714 1732 1733 1752 1753 1772 1773 17B4 17B5 17B7 17BD 17C6 17C6 17C9 17D3 17DD 17DD 180B",
    "180D 180F 180F 1885 1886 18A9 18A9 1920 1922 1927 1928 1932 1932 1939 193B 1A17 1A18 1A1B",
    "1A1B 1A56 1A56 1A58 1A5E 1A60 1A60 1A62 1A62 1A65 1A6C 1A73 1A7C 1A7F 1A7F 1AB0 1ACE 1B00",
    "1B03 1B34 1B34 1B36 1B3A 1B3C 1B3C 1B42 1B42 1B6B 1B73 1B80 1B81 1BA2 1BA5 1BA8 1BA9 1BAB",
    "1BAD 1BE6 1BE6 1BE8 1BE9 1BED 1BED 1BEF 1BF1 1C2C 1C33 1C36 1C37 1CD0 1CD2 1CD4 1CE0 1CE2",
    "1CE8 1CED 1CED 1CF4 1CF4 1CF8 1CF9 1DC0 1DFF 200B 200B 200E 200F 202A 202E 2060 2064 206A",
    "206F 20D0 20F0 2CEF 2CF1 2D7F 2D7F 2DE0 2DFF 302A 302D 3099 309A A66F A672 A674 A67D A69E",
    "A69F A6F0 A6F1 A802 A802 A806 A806 A80B A80B A825 A826 A82C A82C A8C4 A8C5 A8E0 A8F1 A8FF",
    "A8FF A926 A92D A947 A951 A980 A982 A9B3 A9B3 A9B6 A9B9 A9BC A9BD A9E5 A9E5 AA29 AA2E AA31",
    "AA32 AA35 AA36 AA43 AA43 AA4C AA4C AA7C AA7C AAB0 AAB0 AAB2 AAB4 AAB7 AAB8 AABE AABF AAC1",
    "AAC1 AAEC AAED AAF6 AAF6 ABE5 ABE5 ABE8 ABE8 ABED ABED FB1E FB1E FE00 FE0F FE20 FE2F FEFF",
    "FEFF FFF9 FFFB 101FD 101FD 102E0 102E0 10376 1037A 10A01 10A03 10A05 10A06 10A0C 10A0F",
    "10A38 10A3A 10A3F 10A3F 10AE5 10AE6 10D24 10D27 10EAB 10EAC 10EFD 10EFF 10F46 10F50 10F82",
    "10F85 11001 11001 11038 11046 11070 11070 11073 11074 1107F 11081 110B3 110B6 110B9 110BA",
    "110C2 110C2 11100 11102 11127 1112B 1112D 11134 11173 11173 11180 11181 111B6 111BE 111C9",
    "111CC 111CF 111CF 1122F 11231 11234 11234 11236 11237 1123E 1123E 11241 11241 112DF 112DF",
    "112E3 112EA 11300 11301 1133B 1133C 11340 11340 11366 1136C 11370 11374 11438 1143F 11442",
    "11444 11446 11446 1145E 1145E 114B3 114B8 114BA 114BA 114BF 114C0 114C2 114C3 115B2 115B5",
    "115BC 115BD 115BF 115C0 115DC 115DD 11633 1163A 1163D 1163D 1163F 11640 116AB 116AB 116AD",
    "116AD 116B0 116B5 116B7 116B7 1171D 1171F 11722 11725 11727 1172B 1182F 11837 11839 1183A",
    "1193B 1193C 1193E 1193E 11943 11943 119D4 119D7 119DA 119DB 119E0 119E0 11A01 11A0A 11A33",
    "11A38 11A3B 11A3E 11A47 11A47 11A51 11A56 11A59 11A5B 11A8A 11A96 11A98 11A99 11C30 11C36",
    "11C38 11C3D 11C3F 11C3F 11C92 11CA7 11CAA 11CB0 11CB2 11CB3 11CB5 11CB6 11D31 11D36 11D3A",
    "11D3A 11D3C 11D3D 11D3F 11D45 11D47 11D47 11D90 11D91 11D95 11D95 11D97 11D97 11EF3 11EF4",
    "11F00 11F01 11F36 11F3A 11F40 11F40 11F42 11F42 13430 13440 13447 13455 16AF0 16AF4 16B30",
    "16B36 16F4F 16F4F 16F8F 16F92 16FE4 16FE4 1BC9D 1BC9E 1BCA0 1BCA3 1CF00 1CF2D 1CF30 1CF46",
    "1D167 1D169 1D173 1D182 1D185 1D18B 1D1AA 1D1AD 1D242 1D244 1DA00 1DA36 1DA3B 1DA6C 1DA75",
    "1DA75 1DA84 1DA84 1DA9B 1DA9F 1DAA1 1DAAF 1E000 1E006 1E008 1E018 1E01B 1E021 1E023 1E024",
    "1E026 1E02A 1E08F 1E08F 1E130 1E136 1E2AE 1E2AE 1E2EC 1E2EF 1E4EC 1E4EF 1E8D0 1E8D6 1E944",
    "1E94B E0001 E0001 E0020 E007F E0100 E01EF"]

/-- Letters written from right to left. -/
def rightToLeftRanges : List (Nat × Nat) :=
  Text.Packed.pairs [
    "5BE 5BE 5C0 5C0 5C3 5C3 5C6 5C6 5D0 5EA 5EF 5F4 608 608 60B 60B 60D 60D 61B 61B 61D 64A",
    "66D 66F 671 674 679 6D5 6E5 6E6 6EE 6EF 6FA 70D 710 710 712 72F 74D 7A5 7B1 7B1 7C0 7EA",
    "7F4 7F5 7FA 7FA 7FE 815 81A 81A 824 824 828 828 830 83E 840 858 85E 85E 860 86A 870 88E",
    "8A0 8C9 FBB2 FBC2 FE73 FE73 10800 10805 10808 10808 1080A 10835 10837 10838 1083C 1083C",
    "1083F 10855 10857 1089E 108A7 108AF 108E0 108F2 108F4 108F5 108FB 1091B 10920 10939 1093F",
    "1093F 10980 109B7 109BC 109CF 109D2 10A00 10A10 10A13 10A15 10A17 10A19 10A35 10A40 10A48",
    "10A50 10A58 10A60 10A9F 10AC0 10AE4 10AEB 10AF6 10B00 10B35 10B40 10B55 10B58 10B72 10B78",
    "10B91 10B99 10B9C 10BA9 10BAF 10C00 10C48 10CC0 10CF2 10CFA 10D23 10E80 10EA9 10EAD 10EAD",
    "10EB0 10EB1 10F00 10F27 10F30 10F45 10F51 10F59 10F70 10F81 10F86 10F89 10FB0 10FCB 10FE0",
    "10FF6 1E800 1E8C4 1E8C7 1E8CF 1E922 1E943 1E94B 1E94B 1E950 1E959 1E95E 1E95F 1EC71 1ECB4",
    "1ED01 1ED3D"]

/-- Arabic digits. -/
def arabicNumberRanges : List (Nat × Nat) :=
  Text.Packed.pairs [
    "660 669 66B 66C 10D30 10D39 10E60 10E7E"]

/-- European digits. -/
def europeanNumberRanges : List (Nat × Nat) :=
  Text.Packed.pairs [
    "30 39 6F0 6F9 102E1 102FB"]

/-- Separators and terminators of numbers, symbols without a direction, and controls. -/
def neutralRanges : List (Nat × Nat) :=
  Text.Packed.pairs [
    "0 8 E 1B 21 2F 3A 40 5B 60 7B 7F A1 A7 A9 A9 AB AC AE AE B0 B1 B6 B7 BB BB BF BF D7 D7 F7",
    "F7 2B9 2BA 2C2 2CF 2D2 2D7 2DE 2DF 2E5 2ED 2EF 2FF 375 375 3F6 3F6 58A 58A 58D 58F 606 607",
    "609 60A 60C 60C 60E 60F 66A 66A 6DE 6DE 6E9 6E9 7F6 7F9 9F2 9F3 9FB 9FB AF1 AF1 BF3 BFA",
    "C78 C7E E3F E3F F3A F3D 1390 1399 1400 1400 169B 169C 17DB 17DB 17F0 17F9 1800 1805 1807",
    "180A 1940 1940 1944 1945 19DE 19FF 200C 200D 2010 2010 2012 2016 2018 2023 2027 2027 2030",
    "2032 2035 2035 2038 203B 203D 203D 203F 2046 204A 2056 2058 205E 20A0 20A7 20A9 20C0 2104",
    "2104 2108 2108 2114 2114 2117 2118 211E 211F 2123 2123 2125 2125 2127 2127 2129 2129 212E",
    "212E 213A 213A 2141 2144 214A 214D 218A 218B 2190 222B 222E 222E 2231 2328 232B 2335 237B",
    "2394 2396 2426 2440 244A 24EB 26AB 26AD 27FF 2900 2A0B 2A0D 2A73 2A77 2ADB 2ADD 2B73 2B76",
    "2B95 2B97 2BFF 2CE5 2CEA 2CF9 2CFF 2E00 2E5D 2E80 2E99 2E9B 2E9E 2EA0 2EF2 3001 3001 3003",
    "3004 3008 3020 3030 3030 3037 3037 303D 303F 30A0 30A0 30FB 30FB 31C0 31E3 4DC0 4DFF A490",
    "A4C6 A60D A60F A673 A673 A67E A67F A700 A721 A788 A788 A828 A82B A838 A839 A874 A877 AB6A",
    "AB6B FD3E FD4F FDCF FDCF FDFD FDFF FE45 FE46 10101 10101 10140 1018C 10190 1019C 101A0",
    "101A0 1091F 1091F 10B39 10B3F 11052 11065 11660 1166C 11FD5 11FF1 16FE2 16FE2 1D1E9 1D1EA",
    "1D200 1D241 1D245 1D245 1D300 1D356 1E2FF 1E2FF 1EEF0 1EEF1 1F000 1F02B 1F030 1F093 1F0A0",
    "1F0AE 1F0B1 1F0BF 1F0C1 1F0CF 1F0D1 1F0F5 1F10B 1F10F 1F12F 1F12F 1F16D 1F16F 1F1AD 1F1AD",
    "1F260 1F265 1F300 1F6D7 1F6DD 1F6EC 1F6F0 1F6FC 1F700 1F773 1F780 1F7D8 1F7E0 1F7EB 1F7F0",
    "1F7F0 1F800 1F80B 1F810 1F847 1F850 1F859 1F860 1F887 1F890 1F8AD 1F8B0 1F8B1 1F900 1FA53",
    "1FA60 1FA6D 1FA70 1FA74 1FA78 1FA7C 1FA80 1FA86 1FA90 1FAAC 1FAB0 1FABA 1FAC0 1FAC5 1FAD0",
    "1FAD9 1FAE0 1FAE7 1FAF0 1FAF6 1FB00 1FB92 1FB94 1FBCA"]

/-- Marks without a width of their own. -/
def nonspacingRanges : List (Nat × Nat) :=
  Text.Packed.pairs [
    "300 33F 342 342 346 34E 350 36F 483 489 591 5BD 5BF 5BF 5C1 5C2 5C4 5C5 5C7 5C7 610 61A",
    "64B 65F 670 670 6D6 6DC 6DF 6E4 6E7 6E8 6EA 6ED 711 711 730 74A 7A6 7B0 7EB 7F3 7FD 7FD",
    "816 819 81B 823 825 827 829 82D 859 85B 898 89F 8CA 8E1 8E3 902 93A 93A 93C 93C 941 948",
    "94D 94D 951 957 962 963 981 981 9BC 9BC 9C1 9C4 9CD 9CD 9E2 9E3 9FE 9FE A01 A02 A3C A3C",
    "A41 A42 A47 A48 A4B A4D A51 A51 A70 A71 A75 A75 A81 A82 ABC ABC AC1 AC5 AC7 AC8 ACD ACD",
    "AE2 AE3 AFA AFF B01 B01 B3C B3C B3F B3F B41 B44 B4D B4D B55 B56 B62 B63 B82 B82 BC0 BC0",
    "BCD BCD C00 C00 C04 C04 C3C C3C C3E C40 C46 C48 C4A C4D C55 C56 C62 C63 C81 C81 CBC CBC",
    "CCC CCD CE2 CE3 D00 D01 D3B D3C D41 D44 D4D D4D D62 D63 D81 D81 DCA DCA DD2 DD4 DD6 DD6",
    "E31 E31 E34 E3A E47 E4E EB1 EB1 EB4 EBC EC8 ECD F18 F19 F35 F35 F37 F37 F39 F39 F71 F72",
    "F74 F74 F7A F7E F80 F80 F82 F84 F86 F87 F8D F92 F94 F97 F99 F9C F9E FA1 FA3 FA6 FA8 FAB",
    "FAD FB8 FBA FBC FC6 FC6 102D 1030 1032 1037 1039 103A 103D 103E 1058 1059 105E 1060 1071",
    "1074 1082 1082 1085 1086 108D 108D 109D 109D 135D 135F 1712 1714 1732 1733 1752 1753 1772",
    "1773 17B7 17BD 17C6 17C6 17C9 17D3 17DD 17DD 1885 1886 18A9 18A9 1920 1922 1927 1928 1932",
    "1932 1939 193B 1A17 1A18 1A1B 1A1B 1A56 1A56 1A58 1A5E 1A60 1A60 1A62 1A62 1A65 1A6C 1A73",
    "1A7C 1A7F 1A7F 1AB0 1ACE 1B00 1B03 1B34 1B34 1B36 1B3A 1B3C 1B3C 1B42 1B42 1B6B 1B73 1B80",
    "1B81 1BA2 1BA5 1BA8 1BA9 1BAB 1BAD 1BE6 1BE6 1BE8 1BE9 1BED 1BED 1BEF 1BF1 1C2C 1C33 1C36",
    "1C37 1CD0 1CD2 1CD4 1CE0 1CE2 1CE8 1CED 1CED 1CF4 1CF4 1CF8 1CF9 1DC0 1DFF 20D0 20F0 2CEF",
    "2CF1 2D7F 2D7F 2DE0 2DFF 302A 302D 3099 309A A66F A672 A674 A67D A69E A69F A6F0 A6F1 A802",
    "A802 A806 A806 A80B A80B A825 A826 A82C A82C A8C4 A8C5 A8E0 A8F1 A8FF A8FF A926 A92D A947",
    "A951 A980 A982 A9B3 A9B3 A9B6 A9B9 A9BC A9BD A9E5 A9E5 AA29 AA2E AA31 AA32 AA35 AA36 AA43",
    "AA43 AA4C AA4C AA7C AA7C AAB0 AAB0 AAB2 AAB4 AAB7 AAB8 AABE AABF AAC1 AAC1 AAEC AAED AAF6",
    "AAF6 ABE5 ABE5 ABE8 ABE8 ABED ABED FB1E FB1E FE20 FE2F 101FD 101FD 102E0 102E0 10376 1037A",
    "10A01 10A03 10A05 10A06 10A0C 10A0F 10A38 10A3A 10A3F 10A3F 10AE5 10AE6 10D24 10D27 10EAB",
    "10EAC 10F46 10F50 10F82 10F85 11001 11001 11038 11046 11070 11070 11073 11074 1107F 11081",
    "110B3 110B6 110B9 110BA 110C2 110C2 11100 11102 11127 1112B 1112D 11134 11173 11173 11180",
    "11181 111B6 111BE 111C9 111CC 111CF 111CF 1122F 11231 11234 11234 11236 11237 1123E 1123E",
    "112DF 112DF 112E3 112EA 11300 11301 1133B 1133C 11340 11340 11366 1136C 11370 11374 11438",
    "1143F 11442 11444 11446 11446 1145E 1145E 114B3 114B8 114BA 114BA 114BF 114C0 114C2 114C3",
    "115B2 115B5 115BC 115BD 115BF 115C0 115DC 115DD 11633 1163A 1163D 1163D 1163F 11640 116AB",
    "116AB 116AD 116AD 116B0 116B5 116B7 116B7 1171D 1171F 11722 11725 11727 1172B 1182F 11837",
    "11839 1183A 1193B 1193C 1193E 1193E 11943 11943 119D4 119D7 119DA 119DB 119E0 119E0 11A01",
    "11A06 11A09 11A0A 11A33 11A38 11A3B 11A3E 11A47 11A47 11A51 11A56 11A59 11A5B 11A8A 11A96",
    "11A98 11A99 11C30 11C36 11C38 11C3D 11C92 11CA7 11CAA 11CB0 11CB2 11CB3 11CB5 11CB6 11D31",
    "11D36 11D3A 11D3A 11D3C 11D3D 11D3F 11D45 11D47 11D47 11D90 11D91 11D95 11D95 11D97 11D97",
    "11EF3 11EF4 16AF0 16AF4 16B30 16B36 16F4F 16F4F 16F8F 16F92 16FE4 16FE4 1BC9D 1BC9E 1CF00",
    "1CF2D 1CF30 1CF46 1D167 1D169 1D17B 1D182 1D185 1D18B 1D1AA 1D1AD 1D242 1D244 1DA00 1DA36",
    "1DA3B 1DA6C 1DA75 1DA75 1DA84 1DA84 1DA9B 1DA9F 1DAA1 1DAAF 1E000 1E006 1E008 1E018 1E01B",
    "1E021 1E023 1E024 1E026 1E02A 1E130 1E136 1E2AE 1E2AE 1E2EC 1E2EF 1E8D0 1E8D6 1E944 1E94A"]

end ProxyHistory.DomainName
