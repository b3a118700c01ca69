/-!
What the rules for the labels of a domain name ask of code points: direction and joining type as
runs with a value, and where combining marks begin and end by turns. A direction of `ON` stands for
every neutral one that may occur in a label, `-` for those that may not.
-/

namespace PoliteCrawl.Unicode

def directionRuns : String :=
  "0:ON 9:- e:ON 1c:- 21:ON 30:EN 3a:ON 41:L 5b:ON 61:L 7b:ON 85:- 86:ON aa:L ab:ON b2:EN b4:ON
   b5:L b6:ON b9:EN ba:L bb:ON c0:L d7:ON d8:L f7:ON f8:L 2b9:ON 2bb:L 2c2:ON 2d0:L 2d2:ON
   2e0:L 2e5:ON 2ee:L 2ef:ON 300:NSM 370:L 374:ON 376:L 37e:ON 37f:L 384:ON 386:L 387:ON 388:L
   3f6:ON 3f7:L 483:NSM 48a:L 58a:ON 58b:L 58d:ON 590:R 591:NSM 5be:R 5bf:NSM 5c0:R 5c1:NSM
   5c3:R 5c4:NSM 5c6:R 5c7:NSM 5c8:R 600:AN 606:ON 608:AL 609:ON 60b:AL 60c:ON 60d:AL 60e:ON
   610:NSM 61b:AL 64b:NSM 660:AN 66a:ON 66b:AN 66d:AL 670:NSM 671:AL 6d6:NSM 6dd:AN 6de:ON
   6df:NSM 6e5:AL 6e7:NSM 6e9:ON 6ea:NSM 6ee:AL 6f0:EN 6fa:AL 711:NSM 712:AL 730:NSM 74b:AL
   7a6:NSM 7b1:AL 7c0:R 7eb:NSM 7f4:R 7f6:ON 7fa:R 7fd:NSM 7fe:R 816:NSM 81a:R 81b:NSM 824:R
   825:NSM 828:R 829:NSM 82e:R 859:NSM 85c:R 860:AL 890:AN 892:AL 898:NSM 8a0:AL 8ca:NSM 8e2:AN
   8e3:NSM 903:L 93a:NSM 93b:L 93c:NSM 93d:L 941:NSM 949:L 94d:NSM 94e:L 951:NSM 958:L 962:NSM
   964:L 981:NSM 982:L 9bc:NSM 9bd:L 9c1:NSM 9c5:L 9cd:NSM 9ce:L 9e2:NSM 9e4:L 9f2:ON 9f4:L
   9fb:ON 9fc:L 9fe:NSM 9ff:L a01:NSM a03:L a3c:NSM a3d:L a41:NSM a43:L a47:NSM a49:L a4b:NSM
   a4e:L a51:NSM a52:L a70:NSM a72:L a75:NSM a76:L a81:NSM a83:L abc:NSM abd:L ac1:NSM ac6:L
   ac7:NSM ac9:L acd:NSM ace:L ae2:NSM ae4:L af1:ON af2:L afa:NSM b00:L b01:NSM b02:L b3c:NSM
   b3d:L b3f:NSM b40:L b41:NSM b45:L b4d:NSM b4e:L b55:NSM b57:L b62:NSM b64:L b82:NSM b83:L
   bc0:NSM bc1:L bcd:NSM bce:L bf3:ON bfb:L c00:NSM c01:L c04:NSM c05:L c3c:NSM c3d:L c3e:NSM
   c41:L c46:NSM c49:L c4a:NSM c4e:L c55:NSM c57:L c62:NSM c64:L c78:ON c7f:L c81:NSM c82:L
   cbc:NSM cbd:L ccc:NSM cce:L ce2:NSM ce4:L d00:NSM d02:L d3b:NSM d3d:L d41:NSM d45:L d4d:NSM
   d4e:L d62:NSM d64:L d81:NSM d82:L dca:NSM dcb:L dd2:NSM dd5:L dd6:NSM dd7:L e31:NSM e32:L
   e34:NSM e3b:L e3f:ON e40:L e47:NSM e4f:L eb1:NSM eb2:L eb4:NSM ebd:L ec8:NSM ecf:L f18:NSM
   f1a:L f35:NSM f36:L f37:NSM f38:L f39:NSM f3a:ON f3e:L f71:NSM f7f:L f80:NSM f85:L f86:NSM
   f88:L f8d:NSM f98:L f99:NSM fbd:L fc6:NSM fc7:L 102d:NSM 1031:L 1032:NSM 1038:L 1039:NSM
   103b:L 103d:NSM 103f:L 1058:NSM 105a:L 105e:NSM 1061:L 1071:NSM 1075:L 1082:NSM 1083:L
   1085:NSM 1087:L 108d:NSM 108e:L 109d:NSM 109e:L 135d:NSM 1360:L 1390:ON 139a:L 1400:ON
   1401:L 1680:- 1681:L 169b:ON 169d:L 1712:NSM 1715:L 1732:NSM 1734:L 1752:NSM 1754:L 1772:NSM
   1774:L 17b4:NSM 17b6:L 17b7:NSM 17be:L 17c6:NSM 17c7:L 17c9:NSM 17d4:L 17db:ON 17dc:L
   17dd:NSM 17de:L 17f0:ON 17fa:L 1800:ON 180b:NSM 180e:ON 180f:NSM 1810:L 1885:NSM 1887:L
   18a9:NSM 18aa:L 1920:NSM 1923:L 1927:NSM 1929:L 1932:NSM 1933:L 1939:NSM 193c:L 1940:ON
   1941:L 1944:ON 1946:L 19de:ON 1a00:L 1a17:NSM 1a19:L 1a1b:NSM 1a1c:L 1a56:NSM 1a57:L
   1a58:NSM 1a5f:L 1a60:NSM 1a61:L 1a62:NSM 1a63:L 1a65:NSM 1a6d:L 1a73:NSM 1a7d:L 1a7f:NSM
   1a80:L 1ab0:NSM 1acf:L 1b00:NSM 1b04:L 1b34:NSM 1b35:L 1b36:NSM 1b3b:L 1b3c:NSM 1b3d:L
   1b42:NSM 1b43:L 1b6b:NSM 1b74:L 1b80:NSM 1b82:L 1ba2:NSM 1ba6:L 1ba8:NSM 1baa:L 1bab:NSM
   1bae:L 1be6:NSM 1be7:L 1be8:NSM 1bea:L 1bed:NSM 1bee:L 1bef:NSM 1bf2:L 1c2c:NSM 1c34:L
   1c36:NSM 1c38:L 1cd0:NSM 1cd3:L 1cd4:NSM 1ce1:L 1ce2:NSM 1ce9:L 1ced:NSM 1cee:L 1cf4:NSM
   1cf5:L 1cf8:NSM 1cfa:L 1dc0:NSM 1e00:L 1fbd:ON 1fbe:L 1fbf:ON 1fc2:L 1fcd:ON 1fd0:L 1fdd:ON
   1fe0:L 1fed:ON 1ff0:L 1ffd:ON 1fff:L 2000:- 200b:ON 200e:L 200f:R 2010:ON 2028:- 202f:ON
   205f:- 2060:ON 2066:- 206a:ON 2070:EN 2071:L 2074:EN 207a:ON 207f:L 2080:EN 208a:ON 208f:L
   20a0:ON 20d0:NSM 20f1:L 2100:ON 2102:L 2103:ON 2107:L 2108:ON 210a:L 2114:ON 2115:L 2116:ON
   2119:L 211e:ON 2124:L 2125:ON 2126:L 2127:ON 2128:L 2129:ON 212a:L 212e:ON 212f:L 213a:ON
   213c:L 2140:ON 2145:L 214a:ON 214e:L 2150:ON 2160:L 2189:ON 218c:L 2190:ON 2336:L 237b:ON
   2395:L 2396:ON 2427:L 2440:ON 244b:L 2460:ON 2488:EN 249c:L 24ea:ON 26ac:L 26ad:ON 2800:L
   2900:ON 2b74:L 2b76:ON 2b96:L 2b97:ON 2c00:L 2ce5:ON 2ceb:L 2cef:NSM 2cf2:L 2cf9:ON 2d00:L
   2d7f:NSM 2d80:L 2de0:NSM 2e00:ON 2e5e:L 2e80:ON 2e9a:L 2e9b:ON 2ef4:L 2f00:ON 2fd6:L 2ff0:ON
   2ffc:L 3000:- 3001:ON 3005:L 3008:ON 3021:L 302a:NSM 302e:L 3030:ON 3031:L 3036:ON 3038:L
   303d:ON 3040:L 3099:NSM 309b:ON 309d:L 30a0:ON 30a1:L 30fb:ON 30fc:L 31c0:ON 31e4:L 321d:ON
   321f:L 3250:ON 3260:L 327c:ON 327f:L 32b1:ON 32c0:L 32cc:ON 32d0:L 3377:ON 337b:L 33de:ON
   33e0:L 33ff:ON 3400:L 4dc0:ON 4e00:L a490:ON a4c7:L a60d:ON a610:L a66f:NSM a673:ON a674:NSM
   a67e:ON a680:L a69e:NSM a6a0:L a6f0:NSM a6f2:L a700:ON a722:L a788:ON a789:L a802:NSM a803:L
   a806:NSM a807:L a80b:NSM a80c:L a825:NSM a827:L a828:ON a82c:NSM a82d:L a838:ON a83a:L
   a874:ON a878:L a8c4:NSM a8c6:L a8e0:NSM a8f2:L a8ff:NSM a900:L a926:NSM a92e:L a947:NSM
   a952:L a980:NSM a983:L a9b3:NSM a9b4:L a9b6:NSM a9ba:L a9bc:NSM a9be:L a9e5:NSM a9e6:L
   aa29:NSM aa2f:L aa31:NSM aa33:L aa35:NSM aa37:L aa43:NSM aa44:L aa4c:NSM aa4d:L aa7c:NSM
   aa7d:L aab0:NSM aab1:L aab2:NSM aab5:L aab7:NSM aab9:L aabe:NSM aac0:L aac1:NSM aac2:L
   aaec:NSM aaee:L aaf6:NSM aaf7:L ab6a:ON ab6c:L abe5:NSM abe6:L abe8:NSM abe9:L abed:NSM
   abee:L fb1d:R fb1e:NSM fb1f:R fb29:ON fb2a:R fb50:AL fd3e:ON fd50:AL fdcf:ON fdf0:AL fdfd:ON
   fe00:NSM fe10:ON fe1a:L fe20:NSM fe30:ON fe53:L fe54:ON fe67:L fe68:ON fe6c:L fe70:AL
   feff:ON ff00:L ff01:ON ff10:EN ff1a:ON ff21:L ff3b:ON ff41:L ff5b:ON ff66:L ffe0:ON ffe7:L
   ffe8:ON ffef:L fff0:ON 10000:L 10101:ON 10102:L 10140:ON 1018d:L 10190:ON 1019d:L 101a0:ON
   101a1:L 101fd:NSM 101fe:L 102e0:NSM 102e1:EN 102fc:L 10376:NSM 1037b:L 10800:R 1091f:ON
   10920:R 10a01:NSM 10a04:R 10a05:NSM 10a07:R 10a0c:NSM 10a10:R 10a38:NSM 10a3b:R 10a3f:NSM
   10a40:R 10ae5:NSM 10ae7:R 10b39:ON 10b40:R 10d00:AL 10d24:NSM 10d28:AL 10d30:AN 10d3a:AL
   10d40:R 10e60:AN 10e7f:R 10eab:NSM 10ead:R 10ec0:AL 10efd:NSM 10f00:R 10f30:AL 10f46:NSM
   10f51:AL 10f70:R 10f82:NSM 10f86:R 11000:L 11001:NSM 11002:L 11038:NSM 11047:L 11052:ON
   11066:L 11070:NSM 11071:L 11073:NSM 11075:L 1107f:NSM 11082:L 110b3:NSM 110b7:L 110b9:NSM
   110bb:L 110c2:NSM 110c3:L 11100:NSM 11103:L 11127:NSM 1112c:L 1112d:NSM 11135:L 11173:NSM
   11174:L 11180:NSM 11182:L 111b6:NSM 111bf:L 111c9:NSM 111cd:L 111cf:NSM 111d0:L 1122f:NSM
   11232:L 11234:NSM 11235:L 11236:NSM 11238:L 1123e:NSM 1123f:L 11241:NSM 11242:L 112df:NSM
   112e0:L 112e3:NSM 112eb:L 11300:NSM 11302:L 1133b:NSM 1133d:L 11340:NSM 11341:L 11366:NSM
   1136d:L 11370:NSM 11375:L 11438:NSM 11440:L 11442:NSM 11445:L 11446:NSM 11447:L 1145e:NSM
   1145f:L 114b3:NSM 114b9:L 114ba:NSM 114bb:L 114bf:NSM 114c1:L 114c2:NSM 114c4:L 115b2:NSM
   115b6:L 115bc:NSM 115be:L 115bf:NSM 115c1:L 115dc:NSM 115de:L 11633:NSM 1163b:L 1163d:NSM
   1163e:L 1163f:NSM 11641:L 11660:ON 1166d:L 116ab:NSM 116ac:L 116ad:NSM 116ae:L 116b0:NSM
   116b6:L 116b7:NSM 116b8:L 1171d:NSM 11720:L 11722:NSM 11726:L 11727:NSM 1172c:L 1182f:NSM
   11838:L 11839:NSM 1183b:L 1193b:NSM 1193d:L 1193e:NSM 1193f:L 11943:NSM 11944:L 119d4:NSM
   119d8:L 119da:NSM 119dc:L 119e0:NSM 119e1:L 11a01:NSM 11a07:L 11a09:NSM 11a0b:L 11a33:NSM
   11a39:L 11a3b:NSM 11a3f:L 11a47:NSM 11a48:L 11a51:NSM 11a57:L 11a59:NSM 11a5c:L 11a8a:NSM
   11a97:L 11a98:NSM 11a9a:L 11c30:NSM 11c37:L 11c38:NSM 11c3e:L 11c92:NSM 11ca8:L 11caa:NSM
   11cb1:L 11cb2:NSM 11cb4:L 11cb5:NSM 11cb7:L 11d31:NSM 11d37:L 11d3a:NSM 11d3b:L 11d3c:NSM
   11d3e:L 11d3f:NSM 11d46:L 11d47:NSM 11d48:L 11d90:NSM 11d92:L 11d95:NSM 11d96:L 11d97:NSM
   11d98:L 11ef3:NSM 11ef5:L 11f00:NSM 11f02:L 11f36:NSM 11f3b:L 11f40:NSM 11f41:L 11f42:NSM
   11f43:L 11fd5:ON 11ff2:L 13440:NSM 13441:L 13447:NSM 13456:L 16af0:NSM 16af5:L 16b30:NSM
   16b37:L 16f4f:NSM 16f50:L 16f8f:NSM 16f93:L 16fe2:ON 16fe3:L 16fe4:NSM 16fe5:L 1bc9d:NSM
   1bc9f:L 1bca0:ON 1bca4:L 1cf00:NSM 1cf2e:L 1cf30:NSM 1cf47:L 1d167:NSM 1d16a:L 1d173:ON
   1d17b:NSM 1d183:L 1d185:NSM 1d18c:L 1d1aa:NSM 1d1ae:L 1d1e9:ON 1d1eb:L 1d200:ON 1d242:NSM
   1d245:ON 1d246:L 1d300:ON 1d357:L 1d6db:ON 1d6dc:L 1d715:ON 1d716:L 1d74f:ON 1d750:L
   1d789:ON 1d78a:L 1d7c3:ON 1d7c4:L 1d7ce:EN 1d800:L 1da00:NSM 1da37:L 1da3b:NSM 1da6d:L
   1da75:NSM 1da76:L 1da84:NSM 1da85:L 1da9b:NSM 1daa0:L 1daa1:NSM 1dab0:L 1e000:NSM 1e007:L
   1e008:NSM 1e019:L 1e01b:NSM 1e022:L 1e023:NSM 1e025:L 1e026:NSM 1e02b:L 1e08f:NSM 1e090:L
   1e130:NSM 1e137:L 1e2ae:NSM 1e2af:L 1e2ec:NSM 1e2f0:L 1e2ff:ON 1e300:L 1e4ec:NSM 1e4f0:L
   1e800:R 1e8d0:NSM 1e8d7:R 1e944:NSM 1e94b:R 1ec70:AL 1ecc0:R 1ed00:AL 1ed50:R 1ee00:AL
   1eef0:ON 1eef2:AL 1ef00:R 1f000:ON 1f02c:L 1f030:ON 1f094:L 1f0a0:ON 1f0af:L 1f0b1:ON
   1f0c0:L 1f0c1:ON 1f0d0:L 1f0d1:ON 1f0f6:L 1f100:EN 1f10b:ON 1f110:L 1f12f:ON 1f130:L
   1f16a:ON 1f170:L 1f1ad:ON 1f1ae:L 1f260:ON 1f266:L 1f300:ON 1f6d8:L 1f6dc:ON 1f6ed:L
   1f6f0:ON 1f6fd:L 1f700:ON 1f777:L 1f77b:ON 1f7da:L 1f7e0:ON 1f7ec:L 1f7f0:ON 1f7f1:L
   1f800:ON 1f80c:L 1f810:ON 1f848:L 1f850:ON 1f85a:L 1f860:ON 1f888:L 1f890:ON 1f8ae:L
   1f8b0:ON 1f8b2:L 1f900:ON 1fa54:L 1fa60:ON 1fa6e:L 1fa70:ON 1fa7d:L 1fa80:ON 1fa89:L
   1fa90:ON 1fabe:L 1fabf:ON 1fac6:L 1face:ON 1fadc:L 1fae0:ON 1fae9:L 1faf0:ON 1faf9:L
   1fb00:ON 1fb93:L 1fb94:ON 1fbcb:L 1fbf0:EN 1fbfa:L 1fffe:ON 20000:L 2fffe:ON 30000:L
   3fffe:ON 40000:L 4fffe:ON 50000:L 5fffe:ON 60000:L 6fffe:ON 70000:L 7fffe:ON 80000:L
   8fffe:ON 90000:L 9fffe:ON a0000:L afffe:ON b0000:L bfffe:ON c0000:L cfffe:ON d0000:L
   dfffe:ON e0100:NSM e01f0:ON e1000:L efffe:ON f0000:L ffffe:ON 100000:L 10fffe:ON 110000:L"

def joiningRuns : String :=
  "0:U ad:T ae:U 300:T 370:U 483:T 48a:U 591:T 5be:U 5bf:T 5c0:U 5c1:T 5c3:U 5c4:T 5c6:U 5c7:T
   5c8:U 610:T 61b:U 61c:T 61d:U 620:D 621:U 622:R 626:D 627:R 628:D 629:R 62a:D 62f:R 633:D
   640:C 641:D 648:R 649:D 64b:T 660:U 66e:D 670:T 671:R 674:U 675:R 678:D 688:R 69a:D 6c0:R
   6c1:D 6c3:R 6cc:D 6cd:R 6ce:D 6cf:R 6d0:D 6d2:R 6d4:U 6d5:R 6d6:T 6dd:U 6df:T 6e5:U 6e7:T
   6e9:U 6ea:T 6ee:R 6f0:U 6fa:D 6fd:U 6ff:D 700:U 70f:T 710:R 711:T 712:D 715:R 71a:D 71e:R
   71f:D 728:R 729:D 72a:R 72b:D 72c:R 72d:D 72f:R 730:T 74b:U 74d:R 74e:D 759:R 75c:D 76b:R
   76d:D 771:R 772:D 773:R 775:D 778:R 77a:D 780:U 7a6:T 7b1:U 7ca:D 7eb:T 7f4:U 7fa:C 7fb:U
   7fd:T 7fe:U 816:T 81a:U 81b:T 824:U 825:T 828:U 829:T 82e:U 840:R 841:D 846:R 848:D 849:R
   84a:D 854:R 855:D 856:R 859:T 85c:U 860:D 861:U 862:D 866:U 867:R 868:D 869:R 86b:U 870:R
   883:C 886:D 887:U 889:D 88e:R 88f:D 890:U 897:T 8a0:D 8aa:R 8ad:U 8ae:R 8af:D 8b1:R 8b3:D
   8b9:R 8ba:D 8c9:U 8ca:T 8e2:U 8e3:T 903:U 93a:T 93b:U 93c:T 93d:U 941:T 949:U 94d:T 94e:U
   951:T 958:U 962:T 964:U 981:T 982:U 9bc:T 9bd:U 9c1:T 9c5:U 9cd:T 9ce:U 9e2:T 9e4:U 9fe:T
   9ff:U a01:T a03:U a3c:T a3d:U a41:T a43:U a47:T a49:U a4b:T a4e:U a51:T a52:U a70:T a72:U
   a75:T a76:U a81:T a83:U abc:T abd:U ac1:T ac6:U ac7:T ac9:U acd:T ace:U ae2:T ae4:U afa:T
   b00:U b01:T b02:U b3c:T b3d:U b3f:T b40:U b41:T b45:U b4d:T b4e:U b55:T b57:U b62:T b64:U
   b82:T b83:U bc0:T bc1:U bcd:T bce:U c00:T c01:U c04:T c05:U c3c:T c3d:U c3e:T c41:U c46:T
   c49:U c4a:T c4e:U c55:T c57:U c62:T c64:U c81:T c82:U cbc:T cbd:U cbf:T cc0:U cc6:T cc7:U
   ccc:T cce:U ce2:T ce4:U d00:T d02:U d3b:T d3d:U d41:T d45:U d4d:T d4e:U d62:T d64:U d81:T
   d82:U dca:T dcb:U dd2:T dd5:U dd6:T dd7:U e31:T e32:U e34:T e3b:U e47:T e4f:U eb1:T eb2:U
   eb4:T ebd:U ec8:T ecf:U f18:T f1a:U f35:T f36:U f37:T f38:U f39:T f3a:U f71:T f7f:U f80:T
   f85:U f86:T f88:U f8d:T f98:U f99:T fbd:U fc6:T fc7:U 102d:T 1031:U 1032:T 1038:U 1039:T
   103b:U 103d:T 103f:U 1058:T 105a:U 105e:T 1061:U 1071:T 1075:U 1082:T 1083:U 1085:T 1087:U
   108d:T 108e:U 109d:T 109e:U 135d:T 1360:U 1712:T 1715:U 1732:T 1734:U 1752:T 1754:U 1772:T
   1774:U 17b4:T 17b6:U 17b7:T 17be:U 17c6:T 17c7:U 17c9:T 17d4:U 17dd:T 17de:U 1807:D 1808:U
   180a:C 180b:T 180e:U 180f:T 1810:U 1820:D 1879:U 1885:T 1887:D 18a9:T 18aa:D 18ab:U 1920:T
   1923:U 1927:T 1929:U 1932:T 1933:U 1939:T 193c:U 1a17:T 1a19:U 1a1b:T 1a1c:U 1a56:T 1a57:U
   1a58:T 1a5f:U 1a60:T 1a61:U 1a62:T 1a63:U 1a65:T 1a6d:U 1a73:T 1a7d:U 1a7f:T 1a80:U 1ab0:T
   1ade:U 1ae0:T 1aec:U 1b00:T 1b04:U 1b34:T 1b35:U 1b36:T 1b3b:U 1b3c:T 1b3d:U 1b42:T 1b43:U
   1b6b:T 1b74:U 1b80:T 1b82:U 1ba2:T 1ba6:U 1ba8:T 1baa:U 1bab:T 1bae:U 1be6:T 1be7:U 1be8:T
   1bea:U 1bed:T 1bee:U 1bef:T 1bf2:U 1c2c:T 1c34:U 1c36:T 1c38:U 1cd0:T 1cd3:U 1cd4:T 1ce1:U
   1ce2:T 1ce9:U 1ced:T 1cee:U 1cf4:T 1cf5:U 1cf8:T 1cfa:U 1dc0:T 1e00:U 200b:T 200c:U 200d:C
   200e:T 2010:U 202a:T 202f:U 2060:T 2065:U 206a:T 2070:U 20d0:T 20f1:U 2cef:T 2cf2:U 2d7f:T
   2d80:U 2de0:T 2e00:U 302a:T 302e:U 3099:T 309b:U a66f:T a673:U a674:T a67e:U a69e:T a6a0:U
   a6f0:T a6f2:U a802:T a803:U a806:T a807:U a80b:T a80c:U a825:T a827:U a82c:T a82d:U a840:D
   a872:L a873:U a8c4:T a8c6:U a8e0:T a8f2:U a8ff:T a900:U a926:T a92e:U a947:T a952:U a980:T
   a983:U a9b3:T a9b4:U a9b6:T a9ba:U a9bc:T a9be:U a9e5:T a9e6:U aa29:T aa2f:U aa31:T aa33:U
   aa35:T aa37:U aa43:T aa44:U aa4c:T aa4d:U aa7c:T aa7d:U aab0:T aab1:U aab2:T aab5:U aab7:T
   aab9:U aabe:T aac0:U aac1:T aac2:U aaec:T aaee:U aaf6:T aaf7:U abe5:T abe6:U abe8:T abe9:U
   abed:T abee:U fb1e:T fb1f:U fe00:T fe10:U fe20:T fe30:U feff:T ff00:U fff9:T fffc:U 101fd:T
   101fe:U 102e0:T 102e1:U 10376:T 1037b:U 10a01:T 10a04:U 10a05:T 10a07:U 10a0c:T 10a10:U
   10a38:T 10a3b:U 10a3f:T 10a40:U 10ac0:D 10ac5:R 10ac6:U 10ac7:R 10ac8:U 10ac9:R 10acb:U
   10acd:L 10ace:R 10ad3:D 10ad7:L 10ad8:D 10add:R 10ade:D 10ae1:R 10ae2:U 10ae4:R 10ae5:T
   10ae7:U 10aeb:D 10aef:R 10af0:U 10b80:D 10b81:R 10b82:D 10b83:R 10b86:D 10b89:R 10b8a:D
   10b8c:R 10b8d:D 10b8e:R 10b90:D 10b91:R 10b92:U 10ba9:R 10bad:D 10baf:U 10d00:L 10d01:D
   10d22:R 10d23:D 10d24:T 10d28:U 10d69:T 10d6e:U 10eab:T 10ead:U 10ec2:R 10ec3:D 10ec5:U
   10ec6:D 10ec8:U 10efa:T 10f00:U 10f30:D 10f33:R 10f34:D 10f45:U 10f46:T 10f51:D 10f54:R
   10f55:U 10f70:D 10f74:R 10f76:D 10f82:T 10f86:U 10fb0:D 10fb1:U 10fb2:D 10fb4:R 10fb7:U
   10fb8:D 10fb9:R 10fbb:D 10fbd:R 10fbe:D 10fc0:U 10fc1:D 10fc2:R 10fc4:D 10fc5:U 10fc9:R
   10fca:D 10fcb:L 10fcc:U 11001:T 11002:U 11038:T 11047:U 11070:T 11071:U 11073:T 11075:U
   1107f:T 11082:U 110b3:T 110b7:U 110b9:T 110bb:U 110c2:T 110c3:U 11100:T 11103:U 11127:T
   1112c:U 1112d:T 11135:U 11173:T 11174:U 11180:T 11182:U 111b6:T 111bf:U 111c9:T 111cd:U
   111cf:T 111d0:U 1122f:T 11232:U 11234:T 11235:U 11236:T 11238:U 1123e:T 1123f:U 11241:T
   11242:U 112df:T 112e0:U 112e3:T 112eb:U 11300:T 11302:U 1133b:T 1133d:U 11340:T 11341:U
   11366:T 1136d:U 11370:T 11375:U 113bb:T 113c1:U 113ce:T 113cf:U 113d0:T 113d1:U 113d2:T
   113d3:U 113e1:T 113e3:U 11438:T 11440:U 11442:T 11445:U 11446:T 11447:U 1145e:T 1145f:U
   114b3:T 114b9:U 114ba:T 114bb:U 114bf:T 114c1:U 114c2:T 114c4:U 115b2:T 115b6:U 115bc:T
   115be:U 115bf:T 115c1:U 115dc:T 115de:U 11633:T 1163b:U 1163d:T 1163e:U 1163f:T 11641:U
   116ab:T 116ac:U 116ad:T 116ae:U 116b0:T 116b6:U 116b7:T 116b8:U 1171d:T 1171e:U 1171f:T
   11720:U 11722:T 11726:U 11727:T 1172c:U 1182f:T 11838:U 11839:T 1183b:U 1193b:T 1193d:U
   1193e:T 1193f:U 11943:T 11944:U 119d4:T 119d8:U 119da:T 119dc:U 119e0:T 119e1:U 11a01:T
   11a0b:U 11a33:T 11a39:U 11a3b:T 11a3f:U 11a47:T 11a48:U 11a51:T 11a57:U 11a59:T 11a5c:U
   11a8a:T 11a97:U 11a98:T 11a9a:U 11b60:T 11b61:U 11b62:T 11b65:U 11b66:T 11b67:U 11c30:T
   11c37:U 11c38:T 11c3e:U 11c3f:T 11c40:U 11c92:T 11ca8:U 11caa:T 11cb1:U 11cb2:T 11cb4:U
   11cb5:T 11cb7:U 11d31:T 11d37:U 11d3a:T 11d3b:U 11d3c:T 11d3e:U 11d3f:T 11d46:U 11d47:T
   11d48:U 11d90:T 11d92:U 11d95:T 11d96:U 11d97:T 11d98:U 11ef3:T 11ef5:U 11f00:T 11f02:U
   11f36:T 11f3b:U 11f40:T 11f41:U 11f42:T 11f43:U 11f5a:T 11f5b:U 13430:T 13441:U 13447:T
   13456:U 1611e:T 1612a:U 1612d:T 16130:U 16af0:T 16af5:U 16b30:T 16b37:U 16f4f:T 16f50:U
   16f8f:T 16f93:U 16fe4:T 16fe5:U 1bc9d:T 1bc9f:U 1bca0:T 1bca4:U 1cf00:T 1cf2e:U 1cf30:T
   1cf47:U 1d167:T 1d16a:U 1d173:T 1d183:U 1d185:T 1d18c:U 1d1aa:T 1d1ae:U 1d242:T 1d245:U
   1da00:T 1da37:U 1da3b:T 1da6d:U 1da75:T 1da76:U 1da84:T 1da85:U 1da9b:T 1daa0:U 1daa1:T
   1dab0:U 1e000:T 1e007:U 1e008:T 1e019:U 1e01b:T 1e022:U 1e023:T 1e025:U 1e026:T 1e02b:U
   1e08f:T 1e090:U 1e130:T 1e137:U 1e2ae:T 1e2af:U 1e2ec:T 1e2f0:U 1e4ec:T 1e4f0:U 1e5ee:T
   1e5f0:U 1e6e3:T 1e6e4:U 1e6e6:T 1e6e7:U 1e6ee:T 1e6f0:U 1e6f5:T 1e6f6:U 1e8d0:T 1e8d7:U
   1e900:D 1e944:T 1e94c:U e0001:T e0002:U e0020:T e0080:U e0100:T e01f0:U"

def markToggles : String :=
  "300 370 483 48a 591 5be 5bf 5c0 5c1 5c3 5c4 5c6 5c7 5c8 610 61b 64b 660 670 671 6d6 6dd 6df
   6e5 6e7 6e9 6ea 6ee 711 712 730 74b 7a6 7b1 7eb 7f4 7fd 7fe 816 81a 81b 824 825 828 829 82e
   859 85c 898 8a0 8ca 8e2 8e3 904 93a 93d 93e 950 951 958 962 964 981 984 9bc 9bd 9be 9c5 9c7
   9c9 9cb 9ce 9d7 9d8 9e2 9e4 9fe 9ff a01 a04 a3c a3d a3e a43 a47 a49 a4b a4e a51 a52 a70 a72
   a75 a76 a81 a84 abc abd abe ac6 ac7 aca acb ace ae2 ae4 afa b00 b01 b04 b3c b3d b3e b45 b47
   b49 b4b b4e b55 b58 b62 b64 b82 b83 bbe bc3 bc6 bc9 bca bce bd7 bd8 c00 c05 c3c c3d c3e c45
   c46 c49 c4a c4e c55 c57 c62 c64 c81 c84 cbc cbd cbe cc5 cc6 cc9 cca cce cd5 cd7 ce2 ce4 cf3
   cf4 d00 d04 d3b d3d d3e d45 d46 d49 d4a d4e d57 d58 d62 d64 d81 d84 dca dcb dcf dd5 dd6 dd7
   dd8 de0 df2 df4 e31 e32 e34 e3b e47 e4f eb1 eb2 eb4 ebd ec8 ecf f18 f1a f35 f36 f37 f38 f39
   f3a f3e f40 f71 f85 f86 f88 f8d f98 f99 fbd fc6 fc7 102b 103f 1056 105a 105e 1061 1062 1065
   1067 106e 1071 1075 1082 108e 108f 1090 109a 109e 135d 1360 1712 1716 1732 1735 1752 1754
   1772 1774 17b4 17d4 17dd 17de 180b 180e 180f 1810 1885 1887 18a9 18aa 1920 192c 1930 193c
   1a17 1a1c 1a55 1a5f 1a60 1a7d 1a7f 1a80 1ab0 1acf 1b00 1b05 1b34 1b45 1b6b 1b74 1b80 1b83
   1ba1 1bae 1be6 1bf4 1c24 1c38 1cd0 1cd3 1cd4 1ce9 1ced 1cee 1cf4 1cf5 1cf7 1cfa 1dc0 1e00
   20d0 20f1 2cef 2cf2 2d7f 2d80 2de0 2e00 302a 3030 3099 309b a66f a673 a674 a67e a69e a6a0
   a6f0 a6f2 a802 a803 a806 a807 a80b a80c a823 a828 a82c a82d a880 a882 a8b4 a8c6 a8e0 a8f2
   a8ff a900 a926 a92e a947 a954 a980 a984 a9b3 a9c1 a9e5 a9e6 aa29 aa37 aa43 aa44 aa4c aa4e
   aa7b aa7e aab0 aab1 aab2 aab5 aab7 aab9 aabe aac0 aac1 aac2 aaeb aaf0 aaf5 aaf7 abe3 abeb
   abec abee fb1e fb1f fe00 fe10 fe20 fe30 101fd 101fe 102e0 102e1 10376 1037b 10a01 10a04
   10a05 10a07 10a0c 10a10 10a38 10a3b 10a3f 10a40 10ae5 10ae7 10d24 10d28 10eab 10ead 10efd
   10f00 10f46 10f51 10f82 10f86 11000 11003 11038 11047 11070 11071 11073 11075 1107f 11083
   110b0 110bb 110c2 110c3 11100 11103 11127 11135 11145 11147 11173 11174 11180 11183 111b3
   111c1 111c9 111cd 111ce 111d0 1122c 11238 1123e 1123f 11241 11242 112df 112eb 11300 11304
   1133b 1133d 1133e 11345 11347 11349 1134b 1134e 11357 11358 11362 11364 11366 1136d 11370
   11375 11435 11447 1145e 1145f 114b0 114c4 115af 115b6 115b8 115c1 115dc 115de 11630 11641
   116ab 116b8 1171d 1172c 1182c 1183b 11930 11936 11937 11939 1193b 1193f 11940 11941 11942
   11944 119d1 119d8 119da 119e1 119e4 119e5 11a01 11a0b 11a33 11a3a 11a3b 11a3f 11a47 11a48
   11a51 11a5c 11a8a 11a9a 11c2f 11c37 11c38 11c40 11c92 11ca8 11ca9 11cb7 11d31 11d37 11d3a
   11d3b 11d3c 11d3e 11d3f 11d46 11d47 11d48 11d8a 11d8f 11d90 11d92 11d93 11d98 11ef3 11ef7
   11f00 11f02 11f03 11f04 11f34 11f3b 11f3e 11f43 13440 13441 13447 13456 16af0 16af5 16b30
   16b37 16f4f 16f50 16f51 16f88 16f8f 16f93 16fe4 16fe5 16ff0 16ff2 1bc9d 1bc9f 1cf00 1cf2e
   1cf30 1cf47 1d165 1d16a 1d16d 1d173 1d17b 1d183 1d185 1d18c 1d1aa 1d1ae 1d242 1d245 1da00
   1da37 1da3b 1da6d 1da75 1da76 1da84 1da85 1da9b 1daa0 1daa1 1dab0 1e000 1e007 1e008 1e019
   1e01b 1e022 1e023 1e025 1e026 1e02b 1e08f 1e090 1e130 1e137 1e2ae 1e2af 1e2ec 1e2f0 1e4ec
   1e4f0 1e8d0 1e8d7 1e944 1e94b e0100 e01f0"

end PoliteCrawl.Unicode
