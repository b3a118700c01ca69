/-!
Canonical combining classes as runs of code points, and canonical decompositions by one step. After
`!` comes a decomposition that composition does not undo.
-/

namespace PoliteCrawl.Unicode

def combiningRuns : String :=
  "0:0 300:230 315:232 316:220 31a:232 31b:216 31c:220 321:202 323:220 327:202 329:220 334:1
   339:220 33d:230 345:240 346:230 347:220 34a:230 34d:220 34f:0 350:230 353:220 357:230
   358:232 359:220 35b:230 35c:233 35d:234 35f:233 360:234 362:233 363:230 370:0 483:230 488:0
   591:220 592:230 596:220 597:230 59a:222 59b:220 59c:230 5a2:220 5a8:230 5aa:220 5ab:230
   5ad:222 5ae:228 5af:230 5b0:10 5b1:11 5b2:12 5b3:13 5b4:14 5b5:15 5b6:16 5b7:17 5b8:18
   5b9:19 5bb:20 5bc:21 5bd:22 5be:0 5bf:23 5c0:0 5c1:24 5c2:25 5c3:0 5c4:230 5c5:220 5c6:0
   5c7:18 5c8:0 610:230 618:30 619:31 61a:32 61b:0 64b:27 64c:28 64d:29 64e:30 64f:31 650:32
   651:33 652:34 653:230 655:220 657:230 65c:220 65d:230 65f:220 660:0 670:35 671:0 6d6:230
   6dd:0 6df:230 6e3:220 6e4:230 6e5:0 6e7:230 6e9:0 6ea:220 6eb:230 6ed:220 6ee:0 711:36 712:0
   730:230 731:220 732:230 734:220 735:230 737:220 73a:230 73b:220 73d:230 73e:220 73f:230
   742:220 743:230 744:220 745:230 746:220 747:230 748:220 749:230 74b:0 7eb:230 7f2:220
   7f3:230 7f4:0 7fd:220 7fe:0 816:230 81a:0 81b:230 824:0 825:230 828:0 829:230 82e:0 859:220
   85c:0 898:230 899:220 89c:230 8a0:0 8ca:230 8cf:220 8d4:230 8e2:0 8e3:220 8e4:230 8e6:220
   8e7:230 8e9:220 8ea:230 8ed:220 8f0:27 8f1:28 8f2:29 8f3:230 8f6:220 8f7:230 8f9:220 8fb:230
   900:0 93c:7 93d:0 94d:9 94e:0 951:230 952:220 953:230 955:0 9bc:7 9bd:0 9cd:9 9ce:0 9fe:230
   9ff:0 a3c:7 a3d:0 a4d:9 a4e:0 abc:7 abd:0 acd:9 ace:0 b3c:7 b3d:0 b4d:9 b4e:0 bcd:9 bce:0
   c3c:7 c3d:0 c4d:9 c4e:0 c55:84 c56:91 c57:0 cbc:7 cbd:0 ccd:9 cce:0 d3b:9 d3d:0 d4d:9 d4e:0
   dca:9 dcb:0 e38:103 e3a:9 e3b:0 e48:107 e4c:0 eb8:118 eba:9 ebb:0 ec8:122 ecc:0 f18:220
   f1a:0 f35:220 f36:0 f37:220 f38:0 f39:216 f3a:0 f71:129 f72:130 f73:0 f74:132 f75:0 f7a:130
   f7e:0 f80:130 f81:0 f82:230 f84:9 f85:0 f86:230 f88:0 fc6:220 fc7:0 1037:7 1038:0 1039:9
   103b:0 108d:220 108e:0 135d:230 1360:0 1714:9 1716:0 1734:9 1735:0 17d2:9 17d3:0 17dd:230
   17de:0 18a9:228 18aa:0 1939:222 193a:230 193b:220 193c:0 1a17:230 1a18:220 1a19:0 1a60:9
   1a61:0 1a75:230 1a7d:0 1a7f:220 1a80:0 1ab0:230 1ab5:220 1abb:230 1abd:220 1abe:0 1abf:220
   1ac1:230 1ac3:220 1ac5:230 1aca:220 1acb:230 1acf:0 1b34:7 1b35:0 1b44:9 1b45:0 1b6b:230
   1b6c:220 1b6d:230 1b74:0 1baa:9 1bac:0 1be6:7 1be7:0 1bf2:9 1bf4:0 1c37:7 1c38:0 1cd0:230
   1cd3:0 1cd4:1 1cd5:220 1cda:230 1cdc:220 1ce0:230 1ce1:0 1ce2:1 1ce9:0 1ced:220 1cee:0
   1cf4:230 1cf5:0 1cf8:230 1cfa:0 1dc0:230 1dc2:220 1dc3:230 1dca:220 1dcb:230 1dcd:234
   1dce:214 1dcf:220 1dd0:202 1dd1:230 1df6:232 1df7:228 1df9:220 1dfa:218 1dfb:230 1dfc:233
   1dfd:220 1dfe:230 1dff:220 1e00:0 20d0:230 20d2:1 20d4:230 20d8:1 20db:230 20dd:0 20e1:230
   20e2:0 20e5:1 20e7:230 20e8:220 20e9:230 20ea:1 20ec:220 20f0:230 20f1:0 2cef:230 2cf2:0
   2d7f:9 2d80:0 2de0:230 2e00:0 302a:218 302b:228 302c:232 302d:222 302e:224 3030:0 3099:8
   309b:0 a66f:230 a670:0 a674:230 a67e:0 a69e:230 a6a0:0 a6f0:230 a6f2:0 a806:9 a807:0 a82c:9
   a82d:0 a8c4:9 a8c5:0 a8e0:230 a8f2:0 a92b:220 a92e:0 a953:9 a954:0 a9b3:7 a9b4:0 a9c0:9
   a9c1:0 aab0:230 aab1:0 aab2:230 aab4:220 aab5:0 aab7:230 aab9:0 aabe:230 aac0:0 aac1:230
   aac2:0 aaf6:9 aaf7:0 abed:9 abee:0 fb1e:26 fb1f:0 fe20:230 fe27:220 fe2e:230 fe30:0
   101fd:220 101fe:0 102e0:220 102e1:0 10376:230 1037b:0 10a0d:220 10a0e:0 10a0f:230 10a10:0
   10a38:230 10a39:1 10a3a:220 10a3b:0 10a3f:9 10a40:0 10ae5:230 10ae6:220 10ae7:0 10d24:230
   10d28:0 10eab:230 10ead:0 10efd:220 10f00:0 10f46:220 10f48:230 10f4b:220 10f4c:230
   10f4d:220 10f51:0 10f82:230 10f83:220 10f84:230 10f85:220 10f86:0 11046:9 11047:0 11070:9
   11071:0 1107f:9 11080:0 110b9:9 110ba:7 110bb:0 11100:230 11103:0 11133:9 11135:0 11173:7
   11174:0 111c0:9 111c1:0 111ca:7 111cb:0 11235:9 11236:7 11237:0 112e9:7 112ea:9 112eb:0
   1133b:7 1133d:0 1134d:9 1134e:0 11366:230 1136d:0 11370:230 11375:0 11442:9 11443:0 11446:7
   11447:0 1145e:230 1145f:0 114c2:9 114c3:7 114c4:0 115bf:9 115c0:7 115c1:0 1163f:9 11640:0
   116b6:9 116b7:7 116b8:0 1172b:9 1172c:0 11839:9 1183a:7 1183b:0 1193d:9 1193f:0 11943:7
   11944:0 119e0:9 119e1:0 11a34:9 11a35:0 11a47:9 11a48:0 11a99:9 11a9a:0 11c3f:9 11c40:0
   11d42:7 11d43:0 11d44:9 11d46:0 11d97:9 11d98:0 11f41:9 11f43:0 16af0:1 16af5:0 16b30:230
   16b37:0 16ff0:6 16ff2:0 1bc9e:1 1bc9f:0 1d165:216 1d167:1 1d16a:0 1d16d:226 1d16e:216
   1d173:0 1d17b:220 1d183:0 1d185:230 1d18a:220 1d18c:0 1d1aa:230 1d1ae:0 1d242:230 1d245:0
   1e000:230 1e007:0 1e008:230 1e019:0 1e01b:230 1e022:0 1e023:230 1e025:0 1e026:230 1e02b:0
   1e08f:230 1e090:0 1e130:230 1e137:0 1e2ae:230 1e2af:0 1e2ec:230 1e2f0:0 1e4ec:232 1e4ee:220
   1e4ef:230 1e4f0:0 1e8d0:220 1e8d7:0 1e944:230 1e94a:7 1e94b:0 110000:0"

def decompositions : String :=
  "c0:41_300 c1:41_301 c2:41_302 c3:41_303 c4:41_308 c5:41_30a c7:43_327 c8:45_300 c9:45_301
   ca:45_302 cb:45_308 cc:49_300 cd:49_301 ce:49_302 cf:49_308 d1:4e_303 d2:4f_300 d3:4f_301
   d4:4f_302 d5:4f_303 d6:4f_308 d9:55_300 da:55_301 db:55_302 dc:55_308 dd:59_301 e0:61_300
   e1:61_301 e2:61_302 e3:61_303 e4:61_308 e5:61_30a e7:63_327 e8:65_300 e9:65_301 ea:65_302
   eb:65_308 ec:69_300 ed:69_301 ee:69_302 ef:69_308 f1:6e_303 f2:6f_300 f3:6f_301 f4:6f_302
   f5:6f_303 f6:6f_308 f9:75_300 fa:75_301 fb:75_302 fc:75_308 fd:79_301 ff:79_308 100:41_304
   101:61_304 102:41_306 103:61_306 104:41_328 105:61_328 106:43_301 107:63_301 108:43_302
   109:63_302 10a:43_307 10b:63_307 10c:43_30c 10d:63_30c 10e:44_30c 10f:64_30c 112:45_304
   113:65_304 114:45_306 115:65_306 116:45_307 117:65_307 118:45_328 119:65_328 11a:45_30c
   11b:65_30c 11c:47_302 11d:67_302 11e:47_306 11f:67_306 120:47_307 121:67_307 122:47_327
   123:67_327 124:48_302 125:68_302 128:49_303 129:69_303 12a:49_304 12b:69_304 12c:49_306
   12d:69_306 12e:49_328 12f:69_328 130:49_307 134:4a_302 135:6a_302 136:4b_327 137:6b_327
   139:4c_301 13a:6c_301 13b:4c_327 13c:6c_327 13d:4c_30c 13e:6c_30c 143:4e_301 144:6e_301
   145:4e_327 146:6e_327 147:4e_30c 148:6e_30c 14c:4f_304 14d:6f_304 14e:4f_306 14f:6f_306
   150:4f_30b 151:6f_30b 154:52_301 155:72_301 156:52_327 157:72_327 158:52_30c 159:72_30c
   15a:53_301 15b:73_301 15c:53_302 15d:73_302 15e:53_327 15f:73_327 160:53_30c 161:73_30c
   162:54_327 163:74_327 164:54_30c 165:74_30c 168:55_303 169:75_303 16a:55_304 16b:75_304
   16c:55_306 16d:75_306 16e:55_30a 16f:75_30a 170:55_30b 171:75_30b 172:55_328 173:75_328
   174:57_302 175:77_302 176:59_302 177:79_302 178:59_308 179:5a_301 17a:7a_301 17b:5a_307
   17c:7a_307 17d:5a_30c 17e:7a_30c 1a0:4f_31b 1a1:6f_31b 1af:55_31b 1b0:75_31b 1cd:41_30c
   1ce:61_30c 1cf:49_30c 1d0:69_30c 1d1:4f_30c 1d2:6f_30c 1d3:55_30c 1d4:75_30c 1d5:dc_304
   1d6:fc_304 1d7:dc_301 1d8:fc_301 1d9:dc_30c 1da:fc_30c 1db:dc_300 1dc:fc_300 1de:c4_304
   1df:e4_304 1e0:226_304 1e1:227_304 1e2:c6_304 1e3:e6_304 1e6:47_30c 1e7:67_30c 1e8:4b_30c
   1e9:6b_30c 1ea:4f_328 1eb:6f_328 1ec:1ea_304 1ed:1eb_304 1ee:1b7_30c 1ef:292_30c 1f0:6a_30c
   1f4:47_301 1f5:67_301 1f8:4e_300 1f9:6e_300 1fa:c5_301 1fb:e5_301 1fc:c6_301 1fd:e6_301
   1fe:d8_301 1ff:f8_301 200:41_30f 201:61_30f 202:41_311 203:61_311 204:45_30f 205:65_30f
   206:45_311 207:65_311 208:49_30f 209:69_30f 20a:49_311 20b:69_311 20c:4f_30f 20d:6f_30f
   20e:4f_311 20f:6f_311 210:52_30f 211:72_30f 212:52_311 213:72_311 214:55_30f 215:75_30f
   216:55_311 217:75_311 218:53_326 219:73_326 21a:54_326 21b:74_326 21e:48_30c 21f:68_30c
   226:41_307 227:61_307 228:45_327 229:65_327 22a:d6_304 22b:f6_304 22c:d5_304 22d:f5_304
   22e:4f_307 22f:6f_307 230:22e_304 231:22f_304 232:59_304 233:79_304 340!300 341!301 343!313
   344!308_301 374!2b9 37e!3b 385:a8_301 386:391_301 387!b7 388:395_301 389:397_301 38a:399_301
   38c:39f_301 38e:3a5_301 38f:3a9_301 390:3ca_301 3aa:399_308 3ab:3a5_308 3ac:3b1_301
   3ad:3b5_301 3ae:3b7_301 3af:3b9_301 3b0:3cb_301 3ca:3b9_308 3cb:3c5_308 3cc:3bf_301
   3cd:3c5_301 3ce:3c9_301 3d3:3d2_301 3d4:3d2_308 400:415_300 401:415_308 403:413_301
   407:406_308 40c:41a_301 40d:418_300 40e:423_306 419:418_306 439:438_306 450:435_300
   451:435_308 453:433_301 457:456_308 45c:43a_301 45d:438_300 45e:443_306 476:474_30f
   477:475_30f 4c1:416_306 4c2:436_306 4d0:410_306 4d1:430_306 4d2:410_308 4d3:430_308
   4d6:415_306 4d7:435_306 4da:4d8_308 4db:4d9_308 4dc:416_308 4dd:436_308 4de:417_308
   4df:437_308 4e2:418_304 4e3:438_304 4e4:418_308 4e5:438_308 4e6:41e_308 4e7:43e_308
   4ea:4e8_308 4eb:4e9_308 4ec:42d_308 4ed:44d_308 4ee:423_304 4ef:443_304 4f0:423_308
   4f1:443_308 4f2:423_30b 4f3:443_30b 4f4:427_308 4f5:447_308 4f8:42b_308 4f9:44b_308
   622:627_653 623:627_654 624:648_654 625:627_655 626:64a_654 6c0:6d5_654 6c2:6c1_654
   6d3:6d2_654 929:928_93c 931:930_93c 934:933_93c 958!915_93c 959!916_93c 95a!917_93c
   95b!91c_93c 95c!921_93c 95d!922_93c 95e!92b_93c 95f!92f_93c 9cb:9c7_9be 9cc:9c7_9d7
   9dc!9a1_9bc 9dd!9a2_9bc 9df!9af_9bc a33!a32_a3c a36!a38_a3c a59!a16_a3c a5a!a17_a3c
   a5b!a1c_a3c a5e!a2b_a3c b48:b47_b56 b4b:b47_b3e b4c:b47_b57 b5c!b21_b3c b5d!b22_b3c
   b94:b92_bd7 bca:bc6_bbe bcb:bc7_bbe bcc:bc6_bd7 c48:c46_c56 cc0:cbf_cd5 cc7:cc6_cd5
   cc8:cc6_cd6 cca:cc6_cc2 ccb:cca_cd5 d4a:d46_d3e d4b:d47_d3e d4c:d46_d57 dda:dd9_dca
   ddc:dd9_dcf ddd:ddc_dca dde:dd9_ddf f43!f42_fb7 f4d!f4c_fb7 f52!f51_fb7 f57!f56_fb7
   f5c!f5b_fb7 f69!f40_fb5 f73!f71_f72 f75!f71_f74 f76!fb2_f80 f78!fb3_f80 f81!f71_f80
   f93!f92_fb7 f9d!f9c_fb7 fa2!fa1_fb7 fa7!fa6_fb7 fac!fab_fb7 fb9!f90_fb5 1026:1025_102e
   1b06:1b05_1b35 1b08:1b07_1b35 1b0a:1b09_1b35 1b0c:1b0b_1b35 1b0e:1b0d_1b35 1b12:1b11_1b35
   1b3b:1b3a_1b35 1b3d:1b3c_1b35 1b40:1b3e_1b35 1b41:1b3f_1b35 1b43:1b42_1b35 1e00:41_325
   1e01:61_325 1e02:42_307 1e03:62_307 1e04:42_323 1e05:62_323 1e06:42_331 1e07:62_331
   1e08:c7_301 1e09:e7_301 1e0a:44_307 1e0b:64_307 1e0c:44_323 1e0d:64_323 1e0e:44_331
   1e0f:64_331 1e10:44_327 1e11:64_327 1e12:44_32d 1e13:64_32d 1e14:112_300 1e15:113_300
   1e16:112_301 1e17:113_301 1e18:45_32d 1e19:65_32d 1e1a:45_330 1e1b:65_330 1e1c:228_306
   1e1d:229_306 1e1e:46_307 1e1f:66_307 1e20:47_304 1e21:67_304 1e22:48_307 1e23:68_307
   1e24:48_323 1e25:68_323 1e26:48_308 1e27:68_308 1e28:48_327 1e29:68_327 1e2a:48_32e
   1e2b:68_32e 1e2c:49_330 1e2d:69_330 1e2e:cf_301 1e2f:ef_301 1e30:4b_301 1e31:6b_301
   1e32:4b_323 1e33:6b_323 1e34:4b_331 1e35:6b_331 1e36:4c_323 1e37:6c_323 1e38:1e36_304
   1e39:1e37_304 1e3a:4c_331 1e3b:6c_331 1e3c:4c_32d 1e3d:6c_32d 1e3e:4d_301 1e3f:6d_301
   1e40:4d_307 1e41:6d_307 1e42:4d_323 1e43:6d_323 1e44:4e_307 1e45:6e_307 1e46:4e_323
   1e47:6e_323 1e48:4e_331 1e49:6e_331 1e4a:4e_32d 1e4b:6e_32d 1e4c:d5_301 1e4d:f5_301
   1e4e:d5_308 1e4f:f5_308 1e50:14c_300 1e51:14d_300 1e52:14c_301 1e53:14d_301 1e54:50_301
   1e55:70_301 1e56:50_307 1e57:70_307 1e58:52_307 1e59:72_307 1e5a:52_323 1e5b:72_323
   1e5c:1e5a_304 1e5d:1e5b_304 1e5e:52_331 1e5f:72_331 1e60:53_307 1e61:73_307 1e62:53_323
   1e63:73_323 1e64:15a_307 1e65:15b_307 1e66:160_307 1e67:161_307 1e68:1e62_307 1e69:1e63_307
   1e6a:54_307 1e6b:74_307 1e6c:54_323 1e6d:74_323 1e6e:54_331 1e6f:74_331 1e70:54_32d
   1e71:74_32d 1e72:55_324 1e73:75_324 1e74:55_330 1e75:75_330 1e76:55_32d 1e77:75_32d
   1e78:168_301 1e79:169_301 1e7a:16a_308 1e7b:16b_308 1e7c:56_303 1e7d:76_303 1e7e:56_323
   1e7f:76_323 1e80:57_300 1e81:77_300 1e82:57_301 1e83:77_301 1e84:57_308 1e85:77_308
   1e86:57_307 1e87:77_307 1e88:57_323 1e89:77_323 1e8a:58_307 1e8b:78_307 1e8c:58_308
   1e8d:78_308 1e8e:59_307 1e8f:79_307 1e90:5a_302 1e91:7a_302 1e92:5a_323 1e93:7a_323
   1e94:5a_331 1e95:7a_331 1e96:68_331 1e97:74_308 1e98:77_30a 1e99:79_30a 1e9b:17f_307
   1ea0:41_323 1ea1:61_323 1ea2:41_309 1ea3:61_309 1ea4:c2_301 1ea5:e2_301 1ea6:c2_300
   1ea7:e2_300 1ea8:c2_309 1ea9:e2_309 1eaa:c2_303 1eab:e2_303 1eac:1ea0_302 1ead:1ea1_302
   1eae:102_301 1eaf:103_301 1eb0:102_300 1eb1:103_300 1eb2:102_309 1eb3:103_309 1eb4:102_303
   1eb5:103_303 1eb6:1ea0_306 1eb7:1ea1_306 1eb8:45_323 1eb9:65_323 1eba:45_309 1ebb:65_309
   1ebc:45_303 1ebd:65_303 1ebe:ca_301 1ebf:ea_301 1ec0:ca_300 1ec1:ea_300 1ec2:ca_309
   1ec3:ea_309 1ec4:ca_303 1ec5:ea_303 1ec6:1eb8_302 1ec7:1eb9_302 1ec8:49_309 1ec9:69_309
   1eca:49_323 1ecb:69_323 1ecc:4f_323 1ecd:6f_323 1ece:4f_309 1ecf:6f_309 1ed0:d4_301
   1ed1:f4_301 1ed2:d4_300 1ed3:f4_300 1ed4:d4_309 1ed5:f4_309 1ed6:d4_303 1ed7:f4_303
   1ed8:1ecc_302 1ed9:1ecd_302 1eda:1a0_301 1edb:1a1_301 1edc:1a0_300 1edd:1a1_300 1ede:1a0_309
   1edf:1a1_309 1ee0:1a0_303 1ee1:1a1_303 1ee2:1a0_323 1ee3:1a1_323 1ee4:55_323 1ee5:75_323
   1ee6:55_309 1ee7:75_309 1ee8:1af_301 1ee9:1b0_301 1eea:1af_300 1eeb:1b0_300 1eec:1af_309
   1eed:1b0_309 1eee:1af_303 1eef:1b0_303 1ef0:1af_323 1ef1:1b0_323 1ef2:59_300 1ef3:79_300
   1ef4:59_323 1ef5:79_323 1ef6:59_309 1ef7:79_309 1ef8:59_303 1ef9:79_303 1f00:3b1_313
   1f01:3b1_314 1f02:1f00_300 1f03:1f01_300 1f04:1f00_301 1f05:1f01_301 1f06:1f00_342
   1f07:1f01_342 1f08:391_313 1f09:391_314 1f0a:1f08_300 1f0b:1f09_300 1f0c:1f08_301
   1f0d:1f09_301 1f0e:1f08_342 1f0f:1f09_342 1f10:3b5_313 1f11:3b5_314 1f12:1f10_300
   1f13:1f11_300 1f14:1f10_301 1f15:1f11_301 1f18:395_313 1f19:395_314 1f1a:1f18_300
   1f1b:1f19_300 1f1c:1f18_301 1f1d:1f19_301 1f20:3b7_313 1f21:3b7_314 1f22:1f20_300
   1f23:1f21_300 1f24:1f20_301 1f25:1f21_301 1f26:1f20_342 1f27:1f21_342 1f28:397_313
   1f29:397_314 1f2a:1f28_300 1f2b:1f29_300 1f2c:1f28_301 1f2d:1f29_301 1f2e:1f28_342
   1f2f:1f29_342 1f30:3b9_313 1f31:3b9_314 1f32:1f30_300 1f33:1f31_300 1f34:1f30_301
   1f35:1f31_301 1f36:1f30_342 1f37:1f31_342 1f38:399_313 1f39:399_314 1f3a:1f38_300
   1f3b:1f39_300 1f3c:1f38_301 1f3d:1f39_301 1f3e:1f38_342 1f3f:1f39_342 1f40:3bf_313
   1f41:3bf_314 1f42:1f40_300 1f43:1f41_300 1f44:1f40_301 1f45:1f41_301 1f48:39f_313
   1f49:39f_314 1f4a:1f48_300 1f4b:1f49_300 1f4c:1f48_301 1f4d:1f49_301 1f50:3c5_313
   1f51:3c5_314 1f52:1f50_300 1f53:1f51_300 1f54:1f50_301 1f55:1f51_301 1f56:1f50_342
   1f57:1f51_342 1f59:3a5_314 1f5b:1f59_300 1f5d:1f59_301 1f5f:1f59_342 1f60:3c9_313
   1f61:3c9_314 1f62:1f60_300 1f63:1f61_300 1f64:1f60_301 1f65:1f61_301 1f66:1f60_342
   1f67:1f61_342 1f68:3a9_313 1f69:3a9_314 1f6a:1f68_300 1f6b:1f69_300 1f6c:1f68_301
   1f6d:1f69_301 1f6e:1f68_342 1f6f:1f69_342 1f70:3b1_300 1f71!3ac 1f72:3b5_300 1f73!3ad
   1f74:3b7_300 1f75!3ae 1f76:3b9_300 1f77!3af 1f78:3bf_300 1f79!3cc 1f7a:3c5_300 1f7b!3cd
   1f7c:3c9_300 1f7d!3ce 1f80:1f00_345 1f81:1f01_345 1f82:1f02_345 1f83:1f03_345 1f84:1f04_345
   1f85:1f05_345 1f86:1f06_345 1f87:1f07_345 1f88:1f08_345 1f89:1f09_345 1f8a:1f0a_345
   1f8b:1f0b_345 1f8c:1f0c_345 1f8d:1f0d_345 1f8e:1f0e_345 1f8f:1f0f_345 1f90:1f20_345
   1f91:1f21_345 1f92:1f22_345 1f93:1f23_345 1f94:1f24_345 1f95:1f25_345 1f96:1f26_345
   1f97:1f27_345 1f98:1f28_345 1f99:1f29_345 1f9a:1f2a_345 1f9b:1f2b_345 1f9c:1f2c_345
   1f9d:1f2d_345 1f9e:1f2e_345 1f9f:1f2f_345 1fa0:1f60_345 1fa1:1f61_345 1fa2:1f62_345
   1fa3:1f63_345 1fa4:1f64_345 1fa5:1f65_345 1fa6:1f66_345 1fa7:1f67_345 1fa8:1f68_345
   1fa9:1f69_345 1faa:1f6a_345 1fab:1f6b_345 1fac:1f6c_345 1fad:1f6d_345 1fae:1f6e_345
   1faf:1f6f_345 1fb0:3b1_306 1fb1:3b1_304 1fb2:1f70_345 1fb3:3b1_345 1fb4:3ac_345 1fb6:3b1_342
   1fb7:1fb6_345 1fb8:391_306 1fb9:391_304 1fba:391_300 1fbb!386 1fbc:391_345 1fbe!3b9
   1fc1:a8_342 1fc2:1f74_345 1fc3:3b7_345 1fc4:3ae_345 1fc6:3b7_342 1fc7:1fc6_345 1fc8:395_300
   1fc9!388 1fca:397_300 1fcb!389 1fcc:397_345 1fcd:1fbf_300 1fce:1fbf_301 1fcf:1fbf_342
   1fd0:3b9_306 1fd1:3b9_304 1fd2:3ca_300 1fd3!390 1fd6:3b9_342 1fd7:3ca_342 1fd8:399_306
   1fd9:399_304 1fda:399_300 1fdb!38a 1fdd:1ffe_300 1fde:1ffe_301 1fdf:1ffe_342 1fe0:3c5_306
   1fe1:3c5_304 1fe2:3cb_300 1fe3!3b0 1fe4:3c1_313 1fe5:3c1_314 1fe6:3c5_342 1fe7:3cb_342
   1fe8:3a5_306 1fe9:3a5_304 1fea:3a5_300 1feb!38e 1fec:3a1_314 1fed:a8_300 1fee!385 1fef!60
   1ff2:1f7c_345 1ff3:3c9_345 1ff4:3ce_345 1ff6:3c9_342 1ff7:1ff6_345 1ff8:39f_300 1ff9!38c
   1ffa:3a9_300 1ffb!38f 1ffc:3a9_345 1ffd!b4 2000!2002 2001!2003 2126!3a9 212a!4b 212b!c5
   219a:2190_338 219b:2192_338 21ae:2194_338 21cd:21d0_338 21ce:21d4_338 21cf:21d2_338
   2204:2203_338 2209:2208_338 220c:220b_338 2224:2223_338 2226:2225_338 2241:223c_338
   2244:2243_338 2247:2245_338 2249:2248_338 2260:3d_338 2262:2261_338 226d:224d_338
   226e:3c_338 226f:3e_338 2270:2264_338 2271:2265_338 2274:2272_338 2275:2273_338
   2278:2276_338 2279:2277_338 2280:227a_338 2281:227b_338 2284:2282_338 2285:2283_338
   2288:2286_338 2289:2287_338 22ac:22a2_338 22ad:22a8_338 22ae:22a9_338 22af:22ab_338
   22e0:227c_338 22e1:227d_338 22e2:2291_338 22e3:2292_338 22ea:22b2_338 22eb:22b3_338
   22ec:22b4_338 22ed:22b5_338 2329!3008 232a!3009 2adc!2add_338 304c:304b_3099 304e:304d_3099
   3050:304f_3099 3052:3051_3099 3054:3053_3099 3056:3055_3099 3058:3057_3099 305a:3059_3099
   305c:305b_3099 305e:305d_3099 3060:305f_3099 3062:3061_3099 3065:3064_3099 3067:3066_3099
   3069:3068_3099 3070:306f_3099 3071:306f_309a 3073:3072_3099 3074:3072_309a 3076:3075_3099
   3077:3075_309a 3079:3078_3099 307a:3078_309a 307c:307b_3099 307d:307b_309a 3094:3046_3099
   309e:309d_3099 30ac:30ab_3099 30ae:30ad_3099 30b0:30af_3099 30b2:30b1_3099 30b4:30b3_3099
   30b6:30b5_3099 30b8:30b7_3099 30ba:30b9_3099 30bc:30bb_3099 30be:30bd_3099 30c0:30bf_3099
   30c2:30c1_3099 30c5:30c4_3099 30c7:30c6_3099 30c9:30c8_3099 30d0:30cf_3099 30d1:30cf_309a
   30d3:30d2_3099 30d4:30d2_309a 30d6:30d5_3099 30d7:30d5_309a 30d9:30d8_3099 30da:30d8_309a
   30dc:30db_3099 30dd:30db_309a 30f4:30a6_3099 30f7:30ef_3099 30f8:30f0_3099 30f9:30f1_3099
   30fa:30f2_3099 30fe:30fd_3099 f900!8c48 f901!66f4 f902!8eca f903!8cc8 f904!6ed1 f905!4e32
   f906!53e5 f907!9f9c f908!9f9c f909!5951 f90a!91d1 f90b!5587 f90c!5948 f90d!61f6 f90e!7669
   f90f!7f85 f910!863f f911!87ba f912!88f8 f913!908f f914!6a02 f915!6d1b f916!70d9 f917!73de
   f918!843d f919!916a f91a!99f1 f91b!4e82 f91c!5375 f91d!6b04 f91e!721b f91f!862d f920!9e1e
   f921!5d50 f922!6feb f923!85cd f924!8964 f925!62c9 f926!81d8 f927!881f f928!5eca f929!6717
   f92a!6d6a f92b!72fc f92c!90ce f92d!4f86 f92e!51b7 f92f!52de f930!64c4 f931!6ad3 f932!7210
   f933!76e7 f934!8001 f935!8606 f936!865c f937!8def f938!9732 f939!9b6f f93a!9dfa f93b!788c
   f93c!797f f93d!7da0 f93e!83c9 f93f!9304 f940!9e7f f941!8ad6 f942!58df f943!5f04 f944!7c60
   f945!807e f946!7262 f947!78ca f948!8cc2 f949!96f7 f94a!58d8 f94b!5c62 f94c!6a13 f94d!6dda
   f94e!6f0f f94f!7d2f f950!7e37 f951!964b f952!52d2 f953!808b f954!51dc f955!51cc f956!7a1c
   f957!7dbe f958!83f1 f959!9675 f95a!8b80 f95b!62cf f95c!6a02 f95d!8afe f95e!4e39 f95f!5be7
   f960!6012 f961!7387 f962!7570 f963!5317 f964!78fb f965!4fbf f966!5fa9 f967!4e0d f968!6ccc
   f969!6578 f96a!7d22 f96b!53c3 f96c!585e f96d!7701 f96e!8449 f96f!8aaa f970!6bba f971!8fb0
   f972!6c88 f973!62fe f974!82e5 f975!63a0 f976!7565 f977!4eae f978!5169 f979!51c9 f97a!6881
   f97b!7ce7 f97c!826f f97d!8ad2 f97e!91cf f97f!52f5 f980!5442 f981!5973 f982!5eec f983!65c5
   f984!6ffe f985!792a f986!95ad f987!9a6a f988!9e97 f989!9ece f98a!529b f98b!66c6 f98c!6b77
   f98d!8f62 f98e!5e74 f98f!6190 f990!6200 f991!649a f992!6f23 f993!7149 f994!7489 f995!79ca
   f996!7df4 f997!806f f998!8f26 f999!84ee f99a!9023 f99b!934a f99c!5217 f99d!52a3 f99e!54bd
   f99f!70c8 f9a0!88c2 f9a1!8aaa f9a2!5ec9 f9a3!5ff5 f9a4!637b f9a5!6bae f9a6!7c3e f9a7!7375
   f9a8!4ee4 f9a9!56f9 f9aa!5be7 f9ab!5dba f9ac!601c f9ad!73b2 f9ae!7469 f9af!7f9a f9b0!8046
   f9b1!9234 f9b2!96f6 f9b3!9748 f9b4!9818 f9b5!4f8b f9b6!79ae f9b7!91b4 f9b8!96b8 f9b9!60e1
   f9ba!4e86 f9bb!50da f9bc!5bee f9bd!5c3f f9be!6599 f9bf!6a02 f9c0!71ce f9c1!7642 f9c2!84fc
   f9c3!907c f9c4!9f8d f9c5!6688 f9c6!962e f9c7!5289 f9c8!677b f9c9!67f3 f9ca!6d41 f9cb!6e9c
   f9cc!7409 f9cd!7559 f9ce!786b f9cf!7d10 f9d0!985e f9d1!516d f9d2!622e f9d3!9678 f9d4!502b
   f9d5!5d19 f9d6!6dea f9d7!8f2a f9d8!5f8b f9d9!6144 f9da!6817 f9db!7387 f9dc!9686 f9dd!5229
   f9de!540f f9df!5c65 f9e0!6613 f9e1!674e f9e2!68a8 f9e3!6ce5 f9e4!7406 f9e5!75e2 f9e6!7f79
   f9e7!88cf f9e8!88e1 f9e9!91cc f9ea!96e2 f9eb!533f f9ec!6eba f9ed!541d f9ee!71d0 f9ef!7498
   f9f0!85fa f9f1!96a3 f9f2!9c57 f9f3!9e9f f9f4!6797 f9f5!6dcb f9f6!81e8 f9f7!7acb f9f8!7b20
   f9f9!7c92 f9fa!72c0 f9fb!7099 f9fc!8b58 f9fd!4ec0 f9fe!8336 f9ff!523a fa00!5207 fa01!5ea6
   fa02!62d3 fa03!7cd6 fa04!5b85 fa05!6d1e fa06!66b4 fa07!8f3b fa08!884c fa09!964d fa0a!898b
   fa0b!5ed3 fa0c!5140 fa0d!55c0 fa10!585a fa12!6674 fa15!51de fa16!732a fa17!76ca fa18!793c
   fa19!795e fa1a!7965 fa1b!798f fa1c!9756 fa1d!7cbe fa1e!7fbd fa20!8612 fa22!8af8 fa25!9038
   fa26!90fd fa2a!98ef fa2b!98fc fa2c!9928 fa2d!9db4 fa2e!90de fa2f!96b7 fa30!4fae fa31!50e7
   fa32!514d fa33!52c9 fa34!52e4 fa35!5351 fa36!559d fa37!5606 fa38!5668 fa39!5840 fa3a!58a8
   fa3b!5c64 fa3c!5c6e fa3d!6094 fa3e!6168 fa3f!618e fa40!61f2 fa41!654f fa42!65e2 fa43!6691
   fa44!6885 fa45!6d77 fa46!6e1a fa47!6f22 fa48!716e fa49!722b fa4a!7422 fa4b!7891 fa4c!793e
   fa4d!7949 fa4e!7948 fa4f!7950 fa50!7956 fa51!795d fa52!798d fa53!798e fa54!7a40 fa55!7a81
   fa56!7bc0 fa57!7df4 fa58!7e09 fa59!7e41 fa5a!7f72 fa5b!8005 fa5c!81ed fa5d!8279 fa5e!8279
   fa5f!8457 fa60!8910 fa61!8996 fa62!8b01 fa63!8b39 fa64!8cd3 fa65!8d08 fa66!8fb6 fa67!9038
   fa68!96e3 fa69!97ff fa6a!983b fa6b!6075 fa6c!242ee fa6d!8218 fa70!4e26 fa71!51b5 fa72!5168
   fa73!4f80 fa74!5145 fa75!5180 fa76!52c7 fa77!52fa fa78!559d fa79!5555 fa7a!5599 fa7b!55e2
   fa7c!585a fa7d!58b3 fa7e!5944 fa7f!5954 fa80!5a62 fa81!5b28 fa82!5ed2 fa83!5ed9 fa84!5f69
   fa85!5fad fa86!60d8 fa87!614e fa88!6108 fa89!618e fa8a!6160 fa8b!61f2 fa8c!6234 fa8d!63c4
   fa8e!641c fa8f!6452 fa90!6556 fa91!6674 fa92!6717 fa93!671b fa94!6756 fa95!6b79 fa96!6bba
   fa97!6d41 fa98!6edb fa99!6ecb fa9a!6f22 fa9b!701e fa9c!716e fa9d!77a7 fa9e!7235 fa9f!72af
   faa0!732a faa1!7471 faa2!7506 faa3!753b faa4!761d faa5!761f faa6!76ca faa7!76db faa8!76f4
   faa9!774a faaa!7740 faab!78cc faac!7ab1 faad!7bc0 faae!7c7b faaf!7d5b fab0!7df4 fab1!7f3e
   fab2!8005 fab3!8352 fab4!83ef fab5!8779 fab6!8941 fab7!8986 fab8!8996 fab9!8abf faba!8af8
   fabb!8acb fabc!8b01 fabd!8afe fabe!8aed fabf!8b39 fac0!8b8a fac1!8d08 fac2!8f38 fac3!9072
   fac4!9199 fac5!9276 fac6!967c fac7!96e3 fac8!9756 fac9!97db faca!97ff facb!980b facc!983b
   facd!9b12 face!9f9c facf!2284a fad0!22844 fad1!233d5 fad2!3b9d fad3!4018 fad4!4039
   fad5!25249 fad6!25cd0 fad7!27ed3 fad8!9f43 fad9!9f8e fb1d!5d9_5b4 fb1f!5f2_5b7 fb2a!5e9_5c1
   fb2b!5e9_5c2 fb2c!fb49_5c1 fb2d!fb49_5c2 fb2e!5d0_5b7 fb2f!5d0_5b8 fb30!5d0_5bc fb31!5d1_5bc
   fb32!5d2_5bc fb33!5d3_5bc fb34!5d4_5bc fb35!5d5_5bc fb36!5d6_5bc fb38!5d8_5bc fb39!5d9_5bc
   fb3a!5da_5bc fb3b!5db_5bc fb3c!5dc_5bc fb3e!5de_5bc fb40!5e0_5bc fb41!5e1_5bc fb43!5e3_5bc
   fb44!5e4_5bc fb46!5e6_5bc fb47!5e7_5bc fb48!5e8_5bc fb49!5e9_5bc fb4a!5ea_5bc fb4b!5d5_5b9
   fb4c!5d1_5bf fb4d!5db_5bf fb4e!5e4_5bf 1109a:11099_110ba 1109c:1109b_110ba 110ab:110a5_110ba
   1112e:11131_11127 1112f:11132_11127 1134b:11347_1133e 1134c:11347_11357 114bb:114b9_114ba
   114bc:114b9_114b0 114be:114b9_114bd 115ba:115b8_115af 115bb:115b9_115af 11938:11935_11930
   1d15e!1d157_1d165 1d15f!1d158_1d165 1d160!1d15f_1d16e 1d161!1d15f_1d16f 1d162!1d15f_1d170
   1d163!1d15f_1d171 1d164!1d15f_1d172 1d1bb!1d1b9_1d165 1d1bc!1d1ba_1d165 1d1bd!1d1bb_1d16e
   1d1be!1d1bc_1d16e 1d1bf!1d1bb_1d16f 1d1c0!1d1bc_1d16f 2f800!4e3d 2f801!4e38 2f802!4e41
   2f803!20122 2f804!4f60 2f805!4fae 2f806!4fbb 2f807!5002 2f808!507a 2f809!5099 2f80a!50e7
   2f80b!50cf 2f80c!349e 2f80d!2063a 2f80e!514d 2f80f!5154 2f810!5164 2f811!5177 2f812!2051c
   2f813!34b9 2f814!5167 2f815!518d 2f816!2054b 2f817!5197 2f818!51a4 2f819!4ecc 2f81a!51ac
   2f81b!51b5 2f81c!291df 2f81d!51f5 2f81e!5203 2f81f!34df 2f820!523b 2f821!5246 2f822!5272
   2f823!5277 2f824!3515 2f825!52c7 2f826!52c9 2f827!52e4 2f828!52fa 2f829!5305 2f82a!5306
   2f82b!5317 2f82c!5349 2f82d!5351 2f82e!535a 2f82f!5373 2f830!537d 2f831!537f 2f832!537f
   2f833!537f 2f834!20a2c 2f835!7070 2f836!53ca 2f837!53df 2f838!20b63 2f839!53eb 2f83a!53f1
   2f83b!5406 2f83c!549e 2f83d!5438 2f83e!5448 2f83f!5468 2f840!54a2 2f841!54f6 2f842!5510
   2f843!5553 2f844!5563 2f845!5584 2f846!5584 2f847!5599 2f848!55ab 2f849!55b3 2f84a!55c2
   2f84b!5716 2f84c!5606 2f84d!5717 2f84e!5651 2f84f!5674 2f850!5207 2f851!58ee 2f852!57ce
   2f853!57f4 2f854!580d 2f855!578b 2f856!5832 2f857!5831 2f858!58ac 2f859!214e4 2f85a!58f2
   2f85b!58f7 2f85c!5906 2f85d!591a 2f85e!5922 2f85f!5962 2f860!216a8 2f861!216ea 2f862!59ec
   2f863!5a1b 2f864!5a27 2f865!59d8 2f866!5a66 2f867!36ee 2f868!36fc 2f869!5b08 2f86a!5b3e
   2f86b!5b3e 2f86c!219c8 2f86d!5bc3 2f86e!5bd8 2f86f!5be7 2f870!5bf3 2f871!21b18 2f872!5bff
   2f873!5c06 2f874!5f53 2f875!5c22 2f876!3781 2f877!5c60 2f878!5c6e 2f879!5cc0 2f87a!5c8d
   2f87b!21de4 2f87c!5d43 2f87d!21de6 2f87e!5d6e 2f87f!5d6b 2f880!5d7c 2f881!5de1 2f882!5de2
   2f883!382f 2f884!5dfd 2f885!5e28 2f886!5e3d 2f887!5e69 2f888!3862 2f889!22183 2f88a!387c
   2f88b!5eb0 2f88c!5eb3 2f88d!5eb6 2f88e!5eca 2f88f!2a392 2f890!5efe 2f891!22331 2f892!22331
   2f893!8201 2f894!5f22 2f895!5f22 2f896!38c7 2f897!232b8 2f898!261da 2f899!5f62 2f89a!5f6b
   2f89b!38e3 2f89c!5f9a 2f89d!5fcd 2f89e!5fd7 2f89f!5ff9 2f8a0!6081 2f8a1!393a 2f8a2!391c
   2f8a3!6094 2f8a4!226d4 2f8a5!60c7 2f8a6!6148 2f8a7!614c 2f8a8!614e 2f8a9!614c 2f8aa!617a
   2f8ab!618e 2f8ac!61b2 2f8ad!61a4 2f8ae!61af 2f8af!61de 2f8b0!61f2 2f8b1!61f6 2f8b2!6210
   2f8b3!621b 2f8b4!625d 2f8b5!62b1 2f8b6!62d4 2f8b7!6350 2f8b8!22b0c 2f8b9!633d 2f8ba!62fc
   2f8bb!6368 2f8bc!6383 2f8bd!63e4 2f8be!22bf1 2f8bf!6422 2f8c0!63c5 2f8c1!63a9 2f8c2!3a2e
   2f8c3!6469 2f8c4!647e 2f8c5!649d 2f8c6!6477 2f8c7!3a6c 2f8c8!654f 2f8c9!656c 2f8ca!2300a
   2f8cb!65e3 2f8cc!66f8 2f8cd!6649 2f8ce!3b19 2f8cf!6691 2f8d0!3b08 2f8d1!3ae4 2f8d2!5192
   2f8d3!5195 2f8d4!6700 2f8d5!669c 2f8d6!80ad 2f8d7!43d9 2f8d8!6717 2f8d9!671b 2f8da!6721
   2f8db!675e 2f8dc!6753 2f8dd!233c3 2f8de!3b49 2f8df!67fa 2f8e0!6785 2f8e1!6852 2f8e2!6885
   2f8e3!2346d 2f8e4!688e 2f8e5!681f 2f8e6!6914 2f8e7!3b9d 2f8e8!6942 2f8e9!69a3 2f8ea!69ea
   2f8eb!6aa8 2f8ec!236a3 2f8ed!6adb 2f8ee!3c18 2f8ef!6b21 2f8f0!238a7 2f8f1!6b54 2f8f2!3c4e
   2f8f3!6b72 2f8f4!6b9f 2f8f5!6bba 2f8f6!6bbb 2f8f7!23a8d 2f8f8!21d0b 2f8f9!23afa 2f8fa!6c4e
   2f8fb!23cbc 2f8fc!6cbf 2f8fd!6ccd 2f8fe!6c67 2f8ff!6d16 2f900!6d3e 2f901!6d77 2f902!6d41
   2f903!6d69 2f904!6d78 2f905!6d85 2f906!23d1e 2f907!6d34 2f908!6e2f 2f909!6e6e 2f90a!3d33
   2f90b!6ecb 2f90c!6ec7 2f90d!23ed1 2f90e!6df9 2f90f!6f6e 2f910!23f5e 2f911!23f8e 2f912!6fc6
   2f913!7039 2f914!701e 2f915!701b 2f916!3d96 2f917!704a 2f918!707d 2f919!7077 2f91a!70ad
   2f91b!20525 2f91c!7145 2f91d!24263 2f91e!719c 2f91f!243ab 2f920!7228 2f921!7235 2f922!7250
   2f923!24608 2f924!7280 2f925!7295 2f926!24735 2f927!24814 2f928!737a 2f929!738b 2f92a!3eac
   2f92b!73a5 2f92c!3eb8 2f92d!3eb8 2f92e!7447 2f92f!745c 2f930!7471 2f931!7485 2f932!74ca
   2f933!3f1b 2f934!7524 2f935!24c36 2f936!753e 2f937!24c92 2f938!7570 2f939!2219f 2f93a!7610
   2f93b!24fa1 2f93c!24fb8 2f93d!25044 2f93e!3ffc 2f93f!4008 2f940!76f4 2f941!250f3 2f942!250f2
   2f943!25119 2f944!25133 2f945!771e 2f946!771f 2f947!771f 2f948!774a 2f949!4039 2f94a!778b
   2f94b!4046 2f94c!4096 2f94d!2541d 2f94e!784e 2f94f!788c 2f950!78cc 2f951!40e3 2f952!25626
   2f953!7956 2f954!2569a 2f955!256c5 2f956!798f 2f957!79eb 2f958!412f 2f959!7a40 2f95a!7a4a
   2f95b!7a4f 2f95c!2597c 2f95d!25aa7 2f95e!25aa7 2f95f!7aee 2f960!4202 2f961!25bab 2f962!7bc6
   2f963!7bc9 2f964!4227 2f965!25c80 2f966!7cd2 2f967!42a0 2f968!7ce8 2f969!7ce3 2f96a!7d00
   2f96b!25f86 2f96c!7d63 2f96d!4301 2f96e!7dc7 2f96f!7e02 2f970!7e45 2f971!4334 2f972!26228
   2f973!26247 2f974!4359 2f975!262d9 2f976!7f7a 2f977!2633e 2f978!7f95 2f979!7ffa 2f97a!8005
   2f97b!264da 2f97c!26523 2f97d!8060 2f97e!265a8 2f97f!8070 2f980!2335f 2f981!43d5 2f982!80b2
   2f983!8103 2f984!440b 2f985!813e 2f986!5ab5 2f987!267a7 2f988!267b5 2f989!23393 2f98a!2339c
   2f98b!8201 2f98c!8204 2f98d!8f9e 2f98e!446b 2f98f!8291 2f990!828b 2f991!829d 2f992!52b3
   2f993!82b1 2f994!82b3 2f995!82bd 2f996!82e6 2f997!26b3c 2f998!82e5 2f999!831d 2f99a!8363
   2f99b!83ad 2f99c!8323 2f99d!83bd 2f99e!83e7 2f99f!8457 2f9a0!8353 2f9a1!83ca 2f9a2!83cc
   2f9a3!83dc 2f9a4!26c36 2f9a5!26d6b 2f9a6!26cd5 2f9a7!452b 2f9a8!84f1 2f9a9!84f3 2f9aa!8516
   2f9ab!273ca 2f9ac!8564 2f9ad!26f2c 2f9ae!455d 2f9af!4561 2f9b0!26fb1 2f9b1!270d2 2f9b2!456b
   2f9b3!8650 2f9b4!865c 2f9b5!8667 2f9b6!8669 2f9b7!86a9 2f9b8!8688 2f9b9!870e 2f9ba!86e2
   2f9bb!8779 2f9bc!8728 2f9bd!876b 2f9be!8786 2f9bf!45d7 2f9c0!87e1 2f9c1!8801 2f9c2!45f9
   2f9c3!8860 2f9c4!8863 2f9c5!27667 2f9c6!88d7 2f9c7!88de 2f9c8!4635 2f9c9!88fa 2f9ca!34bb
   2f9cb!278ae 2f9cc!27966 2f9cd!46be 2f9ce!46c7 2f9cf!8aa0 2f9d0!8aed 2f9d1!8b8a 2f9d2!8c55
   2f9d3!27ca8 2f9d4!8cab 2f9d5!8cc1 2f9d6!8d1b 2f9d7!8d77 2f9d8!27f2f 2f9d9!20804 2f9da!8dcb
   2f9db!8dbc 2f9dc!8df0 2f9dd!208de 2f9de!8ed4 2f9df!8f38 2f9e0!285d2 2f9e1!285ed 2f9e2!9094
   2f9e3!90f1 2f9e4!9111 2f9e5!2872e 2f9e6!911b 2f9e7!9238 2f9e8!92d7 2f9e9!92d8 2f9ea!927c
   2f9eb!93f9 2f9ec!9415 2f9ed!28bfa 2f9ee!958b 2f9ef!4995 2f9f0!95b7 2f9f1!28d77 2f9f2!49e6
   2f9f3!96c3 2f9f4!5db2 2f9f5!9723 2f9f6!29145 2f9f7!2921a 2f9f8!4a6e 2f9f9!4a76 2f9fa!97e0
   2f9fb!2940a 2f9fc!4ab2 2f9fd!29496 2f9fe!980b 2f9ff!980b 2fa00!9829 2fa01!295b6 2fa02!98e2
   2fa03!4b33 2fa04!9929 2fa05!99a7 2fa06!99c2 2fa07!99fe 2fa08!4bce 2fa09!29b30 2fa0a!9b12
   2fa0b!9c40 2fa0c!9cfd 2fa0d!4cce 2fa0e!4ced 2fa0f!9d67 2fa10!2a0ce 2fa11!4cf8 2fa12!2a105
   2fa13!2a20e 2fa14!2a291 2fa15!9ebb 2fa16!4d56 2fa17!9ef9 2fa18!9efe 2fa19!9f05 2fa1a!9f0f
   2fa1b!9f16 2fa1c!9f3b 2fa1d!2a600"

end PoliteCrawl.Unicode
