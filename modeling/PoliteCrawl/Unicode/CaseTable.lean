/-!
Lower-case forms, and where cased and case-ignorable code points begin and end by turns. A form
follows the first and last code point it is for: `>` is the form of the first, and the others are
as far behind it; `~` takes every second code point, from the first on, to the next one; `:` is
more than one code point.
-/

namespace PoliteCrawl.Unicode

def lowerRuns : String :=
  "41-5a>61 c0-d6>e0 d8-de>f8 100-12e~1 130-130:69_307 132-136~1 139-147~1 14a-176~1 178-178>ff
   179-17d~1 181-181>253 182-182>183 184-184>185 186-186>254 187-187>188 189-18a>256
   18b-18b>18c 18e-18e>1dd 18f-18f>259 190-190>25b 191-191>192 193-193>260 194-194>263
   196-196>269 197-197>268 198-198>199 19c-19c>26f 19d-19d>272 19f-19f>275 1a0-1a4~1
   1a6-1a6>280 1a7-1a7>1a8 1a9-1a9>283 1ac-1ac>1ad 1ae-1ae>288 1af-1af>1b0 1b1-1b2>28a
   1b3-1b3>1b4 1b5-1b5>1b6 1b7-1b7>292 1b8-1b8>1b9 1bc-1bc>1bd 1c4-1c4>1c6 1c5-1c5>1c6
   1c7-1c7>1c9 1c8-1c8>1c9 1ca-1ca>1cc 1cb-1db~1 1de-1ee~1 1f1-1f1>1f3 1f2-1f2>1f3 1f4-1f4>1f5
   1f6-1f6>195 1f7-1f7>1bf 1f8-21e~1 220-220>19e 222-232~1 23a-23a>2c65 23b-23b>23c 23d-23d>19a
   23e-23e>2c66 241-241>242 243-243>180 244-244>289 245-245>28c 246-24e~1 370-370>371
   372-372>373 376-376>377 37f-37f>3f3 386-386>3ac 388-38a>3ad 38c-38c>3cc 38e-38f>3cd
   391-3a1>3b1 3a3-3ab>3c3 3cf-3cf>3d7 3d8-3ee~1 3f4-3f4>3b8 3f7-3f7>3f8 3f9-3f9>3f2
   3fa-3fa>3fb 3fd-3ff>37b 400-40f>450 410-42f>430 460-480~1 48a-4be~1 4c0-4c0>4cf 4c1-4cd~1
   4d0-52e~1 531-556>561 10a0-10c5>2d00 10c7-10c7>2d27 10cd-10cd>2d2d 13a0-13ef>ab70
   13f0-13f5>13f8 1c90-1cba>10d0 1cbd-1cbf>10fd 1e00-1e94~1 1e9e-1e9e>df 1ea0-1efe~1
   1f08-1f0f>1f00 1f18-1f1d>1f10 1f28-1f2f>1f20 1f38-1f3f>1f30 1f48-1f4d>1f40 1f59-1f59>1f51
   1f5b-1f5b>1f53 1f5d-1f5d>1f55 1f5f-1f5f>1f57 1f68-1f6f>1f60 1f88-1f8f>1f80 1f98-1f9f>1f90
   1fa8-1faf>1fa0 1fb8-1fb9>1fb0 1fba-1fbb>1f70 1fbc-1fbc>1fb3 1fc8-1fcb>1f72 1fcc-1fcc>1fc3
   1fd8-1fd9>1fd0 1fda-1fdb>1f76 1fe8-1fe9>1fe0 1fea-1feb>1f7a 1fec-1fec>1fe5 1ff8-1ff9>1f78
   1ffa-1ffb>1f7c 1ffc-1ffc>1ff3 2126-2126>3c9 212a-212a>6b 212b-212b>e5 2132-2132>214e
   2160-216f>2170 2183-2183>2184 24b6-24cf>24d0 2c00-2c2f>2c30 2c60-2c60>2c61 2c62-2c62>26b
   2c63-2c63>1d7d 2c64-2c64>27d 2c67-2c6b~1 2c6d-2c6d>251 2c6e-2c6e>271 2c6f-2c6f>250
   2c70-2c70>252 2c72-2c72>2c73 2c75-2c75>2c76 2c7e-2c7f>23f 2c80-2ce2~1 2ceb-2ceb>2cec
   2ced-2ced>2cee 2cf2-2cf2>2cf3 a640-a66c~1 a680-a69a~1 a722-a72e~1 a732-a76e~1 a779-a779>a77a
   a77b-a77b>a77c a77d-a77d>1d79 a77e-a786~1 a78b-a78b>a78c a78d-a78d>265 a790-a790>a791
   a792-a792>a793 a796-a7a8~1 a7aa-a7aa>266 a7ab-a7ab>25c a7ac-a7ac>261 a7ad-a7ad>26c
   a7ae-a7ae>26a a7b0-a7b0>29e a7b1-a7b1>287 a7b2-a7b2>29d a7b3-a7b3>ab53 a7b4-a7c2~1
   a7c4-a7c4>a794 a7c5-a7c5>282 a7c6-a7c6>1d8e a7c7-a7c7>a7c8 a7c9-a7c9>a7ca a7cb-a7cb>264
   a7cc-a7cc>a7cd a7d0-a7d0>a7d1 a7d6-a7da~1 a7dc-a7dc>19b a7f5-a7f5>a7f6 ff21-ff3a>ff41
   10400-10427>10428 104b0-104d3>104d8 10570-1057a>10597 1057c-1058a>105a3 1058c-10592>105b3
   10594-10595>105bb 10c80-10cb2>10cc0 10d50-10d65>10d70 118a0-118bf>118c0 16e40-16e5f>16e60
   1e900-1e921>1e922"

def casedToggles : String :=
  "41 5b 61 7b aa ab b5 b6 ba bb c0 d7 d8 f7 f8 1bb 1bc 1c0 1c4 294 295 2b9 2c0 2c2 2e0 2e5 345
   346 370 374 376 378 37a 37e 37f 380 386 387 388 38b 38c 38d 38e 3a2 3a3 3f6 3f7 482 48a 530
   531 557 560 589 10a0 10c6 10c7 10c8 10cd 10ce 10d0 10fb 10fc 1100 13a0 13f6 13f8 13fe 1c80
   1c89 1c90 1cbb 1cbd 1cc0 1d00 1dc0 1e00 1f16 1f18 1f1e 1f20 1f46 1f48 1f4e 1f50 1f58 1f59
   1f5a 1f5b 1f5c 1f5d 1f5e 1f5f 1f7e 1f80 1fb5 1fb6 1fbd 1fbe 1fbf 1fc2 1fc5 1fc6 1fcd 1fd0
   1fd4 1fd6 1fdc 1fe0 1fed 1ff2 1ff5 1ff6 1ffd 2071 2072 207f 2080 2090 209d 2102 2103 2107
   2108 210a 2114 2115 2116 2119 211e 2124 2125 2126 2127 2128 2129 212a 212e 212f 2135 2139
   213a 213c 2140 2145 214a 214e 214f 2160 2180 2183 2185 24b6 24ea 2c00 2ce5 2ceb 2cef 2cf2
   2cf4 2d00 2d26 2d27 2d28 2d2d 2d2e a640 a66e a680 a69e a722 a788 a78b a78f a790 a7cb a7d0
   a7d2 a7d3 a7d4 a7d5 a7da a7f2 a7f7 a7f8 a7fb ab30 ab5b ab5c ab6a ab70 abc0 fb00 fb07 fb13
   fb18 ff21 ff3b ff41 ff5b 10400 10450 104b0 104d4 104d8 104fc 10570 1057b 1057c 1058b 1058c
   10593 10594 10596 10597 105a2 105a3 105b2 105b3 105ba 105bb 105bd 10780 10781 10783 10786
   10787 107b1 107b2 107bb 10c80 10cb3 10cc0 10cf3 118a0 118e0 16e40 16e80 1d400 1d455 1d456
   1d49d 1d49e 1d4a0 1d4a2 1d4a3 1d4a5 1d4a7 1d4a9 1d4ad 1d4ae 1d4ba 1d4bb 1d4bc 1d4bd 1d4c4
   1d4c5 1d506 1d507 1d50b 1d50d 1d515 1d516 1d51d 1d51e 1d53a 1d53b 1d53f 1d540 1d545 1d546
   1d547 1d54a 1d551 1d552 1d6a6 1d6a8 1d6c1 1d6c2 1d6db 1d6dc 1d6fb 1d6fc 1d715 1d716 1d735
   1d736 1d74f 1d750 1d76f 1d770 1d789 1d78a 1d7a9 1d7aa 1d7c3 1d7c4 1d7cc 1df00 1df0a 1df0b
   1df1f 1df25 1df2b 1e030 1e06e 1e900 1e944 1f130 1f14a 1f150 1f16a 1f170 1f18a"

def ignorableToggles : String :=
  "27 28 2e 2f 3a 3b 5e 5f 60 61 a8 a9 ad ae af b0 b4 b5 b7 b9 2b0 370 374 376 37a 37b 384 386
   387 388 483 48a 559 55a 55f 560 591 5be 5bf 5c0 5c1 5c3 5c4 5c6 5c7 5c8 5f4 5f5 600 606 610
   61b 61c 61d 640 641 64b 660 670 671 6d6 6de 6df 6e9 6ea 6ee 70f 710 711 712 730 74b 7a6 7b1
   7eb 7f6 7fa 7fb 7fd 7fe 816 82e 859 85c 888 889 890 892 898 8a0 8c9 903 93a 93b 93c 93d 941
   949 94d 94e 951 958 962 964 971 972 981 982 9bc 9bd 9c1 9c5 9cd 9ce 9e2 9e4 9fe 9ff a01 a03
   a3c a3d a41 a43 a47 a49 a4b a4e a51 a52 a70 a72 a75 a76 a81 a83 abc abd ac1 ac6 ac7 ac9 acd
   ace ae2 ae4 afa b00 b01 b02 b3c b3d b3f b40 b41 b45 b4d b4e b55 b57 b62 b64 b82 b83 bc0 bc1
   bcd bce c00 c01 c04 c05 c3c c3d c3e c41 c46 c49 c4a c4e c55 c57 c62 c64 c81 c82 cbc cbd cbf
   cc0 cc6 cc7 ccc cce ce2 ce4 d00 d02 d3b d3d d41 d45 d4d d4e d62 d64 d81 d82 dca dcb dd2 dd5
   dd6 dd7 e31 e32 e34 e3b e46 e4f eb1 eb2 eb4 ebd ec6 ec7 ec8 ecf f18 f1a f35 f36 f37 f38 f39
   f3a f71 f7f f80 f85 f86 f88 f8d f98 f99 fbd fc6 fc7 102d 1031 1032 1038 1039 103b 103d 103f
   1058 105a 105e 1061 1071 1075 1082 1083 1085 1087 108d 108e 109d 109e 10fc 10fd 135d 1360
   1712 1715 1732 1734 1752 1754 1772 1774 17b4 17b6 17b7 17be 17c6 17c7 17c9 17d4 17d7 17d8
   17dd 17de 180b 1810 1843 1844 1885 1887 18a9 18aa 1920 1923 1927 1929 1932 1933 1939 193c
   1a17 1a19 1a1b 1a1c 1a56 1a57 1a58 1a5f 1a60 1a61 1a62 1a63 1a65 1a6d 1a73 1a7d 1a7f 1a80
   1aa7 1aa8 1ab0 1acf 1b00 1b04 1b34 1b35 1b36 1b3b 1b3c 1b3d 1b42 1b43 1b6b 1b74 1b80 1b82
   1ba2 1ba6 1ba8 1baa 1bab 1bae 1be6 1be7 1be8 1bea 1bed 1bee 1bef 1bf2 1c2c 1c34 1c36 1c38
   1c78 1c7e 1cd0 1cd3 1cd4 1ce1 1ce2 1ce9 1ced 1cee 1cf4 1cf5 1cf8 1cfa 1d2c 1d6b 1d78 1d79
   1d9b 1e00 1fbd 1fbe 1fbf 1fc2 1fcd 1fd0 1fdd 1fe0 1fed 1ff0 1ffd 1fff 200b 2010 2018 201a
   2024 2025 2027 2028 202a 202f 2060 2065 2066 2070 2071 2072 207f 2080 2090 209d 20d0 20f1
   2c7c 2c7e 2cef 2cf2 2d6f 2d70 2d7f 2d80 2de0 2e00 2e2f 2e30 3005 3006 302a 302e 3031 3036
   303b 303c 3099 309f 30fc 30ff a015 a016 a4f8 a4fe a60c a60d a66f a673 a674 a67e a67f a680
   a69c a6a0 a6f0 a6f2 a700 a722 a770 a771 a788 a78b a7f2 a7f5 a7f8 a7fa a802 a803 a806 a807
   a80b a80c a825 a827 a82c a82d a8c4 a8c6 a8e0 a8f2 a8ff a900 a926 a92e a947 a952 a980 a983
   a9b3 a9b4 a9b6 a9ba a9bc a9be a9cf a9d0 a9e5 a9e7 aa29 aa2f aa31 aa33 aa35 aa37 aa43 aa44
   aa4c aa4d aa70 aa71 aa7c aa7d aab0 aab1 aab2 aab5 aab7 aab9 aabe aac0 aac1 aac2 aadd aade
   aaec aaee aaf3 aaf5 aaf6 aaf7 ab5b ab60 ab69 ab6c abe5 abe6 abe8 abe9 abed abee fb1e fb1f
   fbb2 fbc3 fe00 fe10 fe13 fe14 fe20 fe30 fe52 fe53 fe55 fe56 feff ff00 ff07 ff08 ff0e ff0f
   ff1a ff1b ff3e ff3f ff40 ff41 ff70 ff71 ff9e ffa0 ffe3 ffe4 fff9 fffc 101fd 101fe 102e0
   102e1 10376 1037b 10780 10786 10787 107b1 107b2 107bb 10a01 10a04 10a05 10a07 10a0c 10a10
   10a38 10a3b 10a3f 10a40 10ae5 10ae7 10d24 10d28 10eab 10ead 10efd 10f00 10f46 10f51 10f82
   10f86 11001 11002 11038 11047 11070 11071 11073 11075 1107f 11082 110b3 110b7 110b9 110bb
   110bd 110be 110c2 110c3 110cd 110ce 11100 11103 11127 1112c 1112d 11135 11173 11174 11180
   11182 111b6 111bf 111c9 111cd 111cf 111d0 1122f 11232 11234 11235 11236 11238 1123e 1123f
   11241 11242 112df 112e0 112e3 112eb 11300 11302 1133b 1133d 11340 11341 11366 1136d 11370
   11375 11438 11440 11442 11445 11446 11447 1145e 1145f 114b3 114b9 114ba 114bb 114bf 114c1
   114c2 114c4 115b2 115b6 115bc 115be 115bf 115c1 115dc 115de 11633 1163b 1163d 1163e 1163f
   11641 116ab 116ac 116ad 116ae 116b0 116b6 116b7 116b8 1171d 11720 11722 11726 11727 1172c
   1182f 11838 11839 1183b 1193b 1193d 1193e 1193f 11943 11944 119d4 119d8 119da 119dc 119e0
   119e1 11a01 11a0b 11a33 11a39 11a3b 11a3f 11a47 11a48 11a51 11a57 11a59 11a5c 11a8a 11a97
   11a98 11a9a 11c30 11c37 11c38 11c3e 11c3f 11c40 11c92 11ca8 11caa 11cb1 11cb2 11cb4 11cb5
   11cb7 11d31 11d37 11d3a 11d3b 11d3c 11d3e 11d3f 11d46 11d47 11d48 11d90 11d92 11d95 11d96
   11d97 11d98 11ef3 11ef5 11f00 11f02 11f36 11f3b 11f40 11f41 11f42 11f43 13430 13441 13447
   13456 16af0 16af5 16b30 16b37 16b40 16b44 16f4f 16f50 16f8f 16fa0 16fe0 16fe2 16fe3 16fe5
   1aff0 1aff4 1aff5 1affc 1affd 1afff 1bc9d 1bc9f 1bca0 1bca4 1cf00 1cf2e 1cf30 1cf47 1d167
   1d16a 1d173 1d183 1d185 1d18c 1d1aa 1d1ae 1d242 1d245 1da00 1da37 1da3b 1da6d 1da75 1da76
   1da84 1da85 1da9b 1daa0 1daa1 1dab0 1e000 1e007 1e008 1e019 1e01b 1e022 1e023 1e025 1e026
   1e02b 1e030 1e06e 1e08f 1e090 1e130 1e13e 1e2ae 1e2af 1e2ec 1e2f0 1e4eb 1e4f0 1e8d0 1e8d7
   1e944 1e94c 1f3fb 1f400 e0001 e0002 e0020 e0080 e0100 e01f0"

end PoliteCrawl.Unicode
