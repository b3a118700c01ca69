/-!
How each code point may stand in a domain name, as runs of code points. The value of a run follows
its first code point: `=` valid, `!` disallowed, `-` ignored, `~` by turns replaced by the next one
and valid, `>` replaced by the one as far into the run that begins at the value, `:` replaced by
the value.
-/

namespace PoliteCrawl.Unicode

def domainRuns : String :=
  "0= 41>61 5b= 80! a0:20 a1= a8:20_308 a9= aa:61 ab= ad- ae= af:20_304 b0= b2>32 b4:20_301
   b5:3bc b6= b8:20_327 b9:31 ba:6f bb= bc:31_2044_34 bd:31_2044_32 be:33_2044_34 bf= c0>e0 d7=
   d8>f8 df= 100~ 130:69_307 131= 132:69_6a 134:135 135= 136:137 137= 139~ 13f:6c_b7 141~
   149:2bc_6e 14a~ 178:ff 179~ 17f:73 180= 181:253 182~ 186:254 187:188 188= 189>256 18b:18c
   18c= 18e:1dd 18f:259 190:25b 191:192 192= 193:260 194:263 195= 196:269 197:268 198:199 199=
   19c:26f 19d:272 19e= 19f:275 1a0~ 1a6:280 1a7:1a8 1a8= 1a9:283 1aa= 1ac:1ad 1ad= 1ae:288
   1af:1b0 1b0= 1b1>28a 1b3~ 1b7:292 1b8:1b9 1b9= 1bc:1bd 1bd= 1c4:64_17e 1c7:6c_6a 1ca:6e_6a
   1cd~ 1db:1dc 1dc= 1de~ 1ee:1ef 1ef= 1f1:64_7a 1f4:1f5 1f5= 1f6:195 1f7:1bf 1f8~ 220:19e 221=
   222~ 232:233 233= 23a:2c65 23b:23c 23c= 23d:19a 23e:2c66 23f= 241:242 242= 243:180 244:289
   245:28c 246~ 24e:24f 24f= 2b0:68 2b1:266 2b2:6a 2b3:72 2b4:279 2b5:27b 2b6:281 2b7:77 2b8:79
   2b9= 2d8:20_306 2d9:20_307 2da:20_30a 2db:20_328 2dc:20_303 2dd:20_30b 2de= 2e0:263 2e1:6c
   2e2:73 2e3:78 2e4:295 2e5= 340>300 342= 343:313 344:308_301 345:3b9 346= 34f- 350= 370~
   374:2b9 375= 376:377 377= 378! 37a:20_3b9 37b= 37e:3b 37f:3f3 380! 384:20_301 385:20_308_301
   386:3ac 387:b7 388>3ad 38b! 38c:3cc 38d! 38e>3cd 390= 391>3b1 3a2! 3a3>3c3 3ac= 3cf:3d7
   3d0:3b2 3d1:3b8 3d2:3c5 3d3:3cd 3d4:3cb 3d5:3c6 3d6:3c0 3d7= 3d8~ 3f0:3ba 3f1:3c1 3f2:3c3
   3f3= 3f4:3b8 3f5:3b5 3f6= 3f7:3f8 3f8= 3f9:3c3 3fa:3fb 3fb= 3fd>37b 400>450 410>430 430=
   460~ 480:481 481= 48a~ 4c0:4cf 4c1~ 4cd:4ce 4ce= 4d0~ 530! 531>561 557! 559= 587:565_582
   588= 58b! 58d= 590! 591= 5c8! 5d0= 5eb! 5ef= 5f5! 606= 61c! 61d= 675:627_674 676:648_674
   677:6c7_674 678:64a_674 679= 6dd! 6de= 70e! 710= 74b! 74d= 7b2! 7c0= 7fb! 7fd= 82e! 830=
   83f! 840= 85c! 85e= 85f! 860= 86b! 870= 890! 897= 8e2! 8e3= 958:915_93c 959:916_93c
   95a:917_93c 95b:91c_93c 95c:921_93c 95d:922_93c 95e:92b_93c 95f:92f_93c 960= 984! 985= 98d!
   98f= 991! 993= 9a9! 9aa= 9b1! 9b2= 9b3! 9b6= 9ba! 9bc= 9c5! 9c7= 9c9! 9cb= 9cf! 9d7= 9d8!
   9dc:9a1_9bc 9dd:9a2_9bc 9de! 9df:9af_9bc 9e0= 9e4! 9e6= 9ff! a01= a04! a05= a0b! a0f= a11!
   a13= a29! a2a= a31! a32= a33:a32_a3c a34! a35= a36:a38_a3c a37! a38= a3a! a3c= a3d! a3e=
   a43! a47= a49! a4b= a4e! a51= a52! a59:a16_a3c a5a:a17_a3c a5b:a1c_a3c a5c= a5d! a5e:a2b_a3c
   a5f! a66= a77! a81= a84! a85= a8e! a8f= a92! a93= aa9! aaa= ab1! ab2= ab4! ab5= aba! abc=
   ac6! ac7= aca! acb= ace! ad0= ad1! ae0= ae4! ae6= af2! af9= b00! b01= b04! b05= b0d! b0f=
   b11! b13= b29! b2a= b31! b32= b34! b35= b3a! b3c= b45! b47= b49! b4b= b4e! b55= b58!
   b5c:b21_b3c b5d:b22_b3c b5e! b5f= b64! b66= b78! b82= b84! b85= b8b! b8e= b91! b92= b96!
   b99= b9b! b9c= b9d! b9e= ba0! ba3= ba5! ba8= bab! bae= bba! bbe= bc3! bc6= bc9! bca= bce!
   bd0= bd1! bd7= bd8! be6= bfb! c00= c0d! c0e= c11! c12= c29! c2a= c3a! c3c= c45! c46= c49!
   c4a= c4e! c55= c57! c58= c5b! c5c= c5e! c60= c64! c66= c70! c77= c8d! c8e= c91! c92= ca9!
   caa= cb4! cb5= cba! cbc= cc5! cc6= cc9! cca= cce! cd5= cd7! cdc= cdf! ce0= ce4! ce6= cf0!
   cf1= cf4! d00= d0d! d0e= d11! d12= d45! d46= d49! d4a= d50! d54= d64! d66= d80! d81= d84!
   d85= d97! d9a= db2! db3= dbc! dbd= dbe! dc0= dc7! dca= dcb! dcf= dd5! dd6= dd7! dd8= de0!
   de6= df0! df2= df5! e01= e33:e4d_e32 e34= e3b! e3f= e5c! e81= e83! e84= e85! e86= e8b! e8c=
   ea4! ea5= ea6! ea7= eb3:ecd_eb2 eb4= ebe! ec0= ec5! ec6= ec7! ec8= ecf! ed0= eda!
   edc:eab_e99 edd:eab_ea1 ede= ee0! f00= f0c:f0b f0d= f43:f42_fb7 f44= f48! f49= f4d:f4c_fb7
   f4e= f52:f51_fb7 f53= f57:f56_fb7 f58= f5c:f5b_fb7 f5d= f69:f40_fb5 f6a= f6d! f71=
   f73:f71_f72 f74= f75:f71_f74 f76:fb2_f80 f77:fb2_f71_f80 f78:fb3_f80 f79:fb3_f71_f80 f7a=
   f81:f71_f80 f82= f93:f92_fb7 f94= f98! f99= f9d:f9c_fb7 f9e= fa2:fa1_fb7 fa3= fa7:fa6_fb7
   fa8= fac:fab_fb7 fad= fb9:f90_fb5 fba= fbd! fbe= fcd! fce= fdb! 1000= 10a0>2d00 10c6!
   10c7:2d27 10c8! 10cd:2d2d 10ce! 10d0= 10fc:10dc 10fd= 115f- 1161= 1249! 124a= 124e! 1250=
   1257! 1258= 1259! 125a= 125e! 1260= 1289! 128a= 128e! 1290= 12b1! 12b2= 12b6! 12b8= 12bf!
   12c0= 12c1! 12c2= 12c6! 12c8= 12d7! 12d8= 1311! 1312= 1316! 1318= 135b! 135d= 137d! 1380=
   139a! 13a0= 13f6! 13f8>13f0 13fe! 1400= 1680! 1681= 169d! 16a0= 16f9! 1700= 1716! 171f=
   1737! 1740= 1754! 1760= 176d! 176e= 1771! 1772= 1774! 1780= 17b4- 17b6= 17de! 17e0= 17ea!
   17f0= 17fa! 1800= 180b- 1810= 181a! 1820= 1879! 1880= 18ab! 18b0= 18f6! 1900= 191f! 1920=
   192c! 1930= 193c! 1940= 1941! 1944= 196e! 1970= 1975! 1980= 19ac! 19b0= 19ca! 19d0= 19db!
   19de= 1a1c! 1a1e= 1a5f! 1a60= 1a7d! 1a7f= 1a8a! 1a90= 1a9a! 1aa0= 1aae! 1ab0= 1ade! 1ae0=
   1aec! 1b00= 1b4d! 1b4e= 1bf4! 1bfc= 1c38! 1c3b= 1c4a! 1c4d= 1c80:432 1c81:434 1c82:43e
   1c83:441 1c84:442 1c86:44a 1c87:463 1c88:a64b 1c89:1c8a 1c8a= 1c8b! 1c90>10d0 1cbb!
   1cbd>10fd 1cc0= 1cc8! 1cd0= 1cfb! 1d00= 1d2c:61 1d2d:e6 1d2e:62 1d2f= 1d30>64 1d32:1dd
   1d33>67 1d3b= 1d3c:6f 1d3d:223 1d3e:70 1d3f:72 1d40>74 1d42:77 1d43:61 1d44>250 1d46:1d02
   1d47:62 1d48>64 1d4a:259 1d4b>25b 1d4d:67 1d4e= 1d4f:6b 1d50:6d 1d51:14b 1d52:6f 1d53:254
   1d54>1d16 1d56:70 1d57>74 1d59:1d1d 1d5a:26f 1d5b:76 1d5c:1d25 1d5d>3b2 1d60>3c6 1d62:69
   1d63:72 1d64>75 1d66>3b2 1d68:3c1 1d69>3c6 1d6b= 1d78:43d 1d79= 1d9b:252 1d9c:63 1d9d:255
   1d9e:f0 1d9f:25c 1da0:66 1da1:25f 1da2:261 1da3:265 1da4>268 1da7:1d7b 1da8:29d 1da9:26d
   1daa:1d85 1dab:29f 1dac:271 1dad:270 1dae>272 1db2:278 1db3>282 1db5:1ab 1db6>289 1db8:1d1c
   1db9>28b 1dbb:7a 1dbc>290 1dbf:3b8 1dc0= 1e00~ 1e94:1e95 1e95= 1e9a:61_2be 1e9b:1e61 1e9c=
   1e9e:df 1e9f= 1ea0~ 1efe:1eff 1eff= 1f08>1f00 1f10= 1f16! 1f18>1f10 1f1e! 1f20= 1f28>1f20
   1f30= 1f38>1f30 1f40= 1f46! 1f48>1f40 1f4e! 1f50= 1f58! 1f59:1f51 1f5a! 1f5b:1f53 1f5c!
   1f5d:1f55 1f5e! 1f5f:1f57 1f60= 1f68>1f60 1f70= 1f71:3ac 1f72= 1f73:3ad 1f74= 1f75:3ae 1f76=
   1f77:3af 1f78= 1f79:3cc 1f7a= 1f7b:3cd 1f7c= 1f7d:3ce 1f7e! 1f80:1f00_3b9 1f81:1f01_3b9
   1f82:1f02_3b9 1f83:1f03_3b9 1f84:1f04_3b9 1f85:1f05_3b9 1f86:1f06_3b9 1f87:1f07_3b9
   1f88:1f00_3b9 1f89:1f01_3b9 1f8a:1f02_3b9 1f8b:1f03_3b9 1f8c:1f04_3b9 1f8d:1f05_3b9
   1f8e:1f06_3b9 1f8f:1f07_3b9 1f90:1f20_3b9 1f91:1f21_3b9 1f92:1f22_3b9 1f93:1f23_3b9
   1f94:1f24_3b9 1f95:1f25_3b9 1f96:1f26_3b9 1f97:1f27_3b9 1f98:1f20_3b9 1f99:1f21_3b9
   1f9a:1f22_3b9 1f9b:1f23_3b9 1f9c:1f24_3b9 1f9d:1f25_3b9 1f9e:1f26_3b9 1f9f:1f27_3b9
   1fa0:1f60_3b9 1fa1:1f61_3b9 1fa2:1f62_3b9 1fa3:1f63_3b9 1fa4:1f64_3b9 1fa5:1f65_3b9
   1fa6:1f66_3b9 1fa7:1f67_3b9 1fa8:1f60_3b9 1fa9:1f61_3b9 1faa:1f62_3b9 1fab:1f63_3b9
   1fac:1f64_3b9 1fad:1f65_3b9 1fae:1f66_3b9 1faf:1f67_3b9 1fb0= 1fb2:1f70_3b9 1fb3:3b1_3b9
   1fb4:3ac_3b9 1fb5! 1fb6= 1fb7:1fb6_3b9 1fb8>1fb0 1fba:1f70 1fbb:3ac 1fbc:3b1_3b9 1fbd:20_313
   1fbe:3b9 1fbf:20_313 1fc0:20_342 1fc1:20_308_342 1fc2:1f74_3b9 1fc3:3b7_3b9 1fc4:3ae_3b9
   1fc5! 1fc6= 1fc7:1fc6_3b9 1fc8:1f72 1fc9:3ad 1fca:1f74 1fcb:3ae 1fcc:3b7_3b9 1fcd:20_313_300
   1fce:20_313_301 1fcf:20_313_342 1fd0= 1fd3:390 1fd4! 1fd6= 1fd8>1fd0 1fda:1f76 1fdb:3af
   1fdc! 1fdd:20_314_300 1fde:20_314_301 1fdf:20_314_342 1fe0= 1fe3:3b0 1fe4= 1fe8>1fe0
   1fea:1f7a 1feb:3cd 1fec:1fe5 1fed:20_308_300 1fee:20_308_301 1fef:60 1ff0! 1ff2:1f7c_3b9
   1ff3:3c9_3b9 1ff4:3ce_3b9 1ff5! 1ff6= 1ff7:1ff6_3b9 1ff8:1f78 1ff9:3cc 1ffa:1f7c 1ffb:3ce
   1ffc:3c9_3b9 1ffd:20_301 1ffe:20_314 1fff! 2000:20 200b- 200c= 200e! 2010= 2011:2010 2012=
   2017:20_333 2018= 2024! 2027= 2028! 202f:20 2030= 2033:2032_2032 2034:2032_2032_2032 2035=
   2036:2035_2035 2037:2035_2035_2035 2038= 203c:21_21 203d= 203e:20_305 203f= 2047:3f_3f
   2048:3f_21 2049:21_3f 204a= 2057:2032_2032_2032_2032 2058= 205f:20 2060- 2065! 206a- 2070:30
   2071:69 2072! 2074>34 207a:2b 207b:2212 207c:3d 207d>28 207f:6e 2080>30 208a:2b 208b:2212
   208c:3d 208d>28 208f! 2090:61 2091:65 2092:6f 2093:78 2094:259 2095:68 2096>6b 209a:70
   209b>73 209d! 20a0= 20a8:72_73 20a9= 20c2! 20d0= 20f1! 2100:61_2f_63 2101:61_2f_73 2102:63
   2103:b0_63 2104= 2105:63_2f_6f 2106:63_2f_75 2107:25b 2108= 2109:b0_66 210a:67 210b:68
   210f:127 2110:69 2112:6c 2114= 2115:6e 2116:6e_6f 2117= 2119>70 211b:72 211e= 2120:73_6d
   2121:74_65_6c 2122:74_6d 2123= 2124:7a 2125= 2126:3c9 2127= 2128:7a 2129= 212a:6b 212b:e5
   212c>62 212e= 212f:65 2131:66 2132:214e 2133:6d 2134:6f 2135>5d0 2139:69 213a= 213b:66_61_78
   213c:3c0 213d:3b3 213f:3c0 2140:2211 2141= 2145:64 2147:65 2148>69 214a= 2150:31_2044_37
   2151:31_2044_39 2152:31_2044_31_30 2153:31_2044_33 2154:32_2044_33 2155:31_2044_35
   2156:32_2044_35 2157:33_2044_35 2158:34_2044_35 2159:31_2044_36 215a:35_2044_36
   215b:31_2044_38 215c:33_2044_38 215d:35_2044_38 215e:37_2044_38 215f:31_2044 2160:69
   2161:69_69 2162:69_69_69 2163:69_76 2164:76 2165:76_69 2166:76_69_69 2167:76_69_69_69
   2168:69_78 2169:78 216a:78_69 216b:78_69_69 216c:6c 216d>63 216f:6d 2170:69 2171:69_69
   2172:69_69_69 2173:69_76 2174:76 2175:76_69 2176:76_69_69 2177:76_69_69_69 2178:69_78
   2179:78 217a:78_69 217b:78_69_69 217c:6c 217d>63 217f:6d 2180= 2183:2184 2184=
   2189:30_2044_33 218a= 218c! 2190= 222c:222b_222b 222d:222b_222b_222b 222e= 222f:222e_222e
   2230:222e_222e_222e 2231= 2329>3008 232b= 242a! 2440= 244b! 2460>31 2469:31_30 246a:31_31
   246b:31_32 246c:31_33 246d:31_34 246e:31_35 246f:31_36 2470:31_37 2471:31_38 2472:31_39
   2473:32_30 2474:28_31_29 2475:28_32_29 2476:28_33_29 2477:28_34_29 2478:28_35_29
   2479:28_36_29 247a:28_37_29 247b:28_38_29 247c:28_39_29 247d:28_31_30_29 247e:28_31_31_29
   247f:28_31_32_29 2480:28_31_33_29 2481:28_31_34_29 2482:28_31_35_29 2483:28_31_36_29
   2484:28_31_37_29 2485:28_31_38_29 2486:28_31_39_29 2487:28_32_30_29 2488! 249c:28_61_29
   249d:28_62_29 249e:28_63_29 249f:28_64_29 24a0:28_65_29 24a1:28_66_29 24a2:28_67_29
   24a3:28_68_29 24a4:28_69_29 24a5:28_6a_29 24a6:28_6b_29 24a7:28_6c_29 24a8:28_6d_29
   24a9:28_6e_29 24aa:28_6f_29 24ab:28_70_29 24ac:28_71_29 24ad:28_72_29 24ae:28_73_29
   24af:28_74_29 24b0:28_75_29 24b1:28_76_29 24b2:28_77_29 24b3:28_78_29 24b4:28_79_29
   24b5:28_7a_29 24b6>61 24d0>61 24ea:30 24eb= 2a0c:222b_222b_222b_222b 2a0d= 2a74:3a_3a_3d
   2a75:3d_3d 2a76:3d_3d_3d 2a77= 2adc:2add_338 2add= 2b74! 2b76= 2c00>2c30 2c30= 2c60:2c61
   2c61= 2c62:26b 2c63:1d7d 2c64:27d 2c65= 2c67~ 2c6d:251 2c6e:271 2c6f:250 2c70:252 2c71=
   2c72:2c73 2c73= 2c75:2c76 2c76= 2c7c:6a 2c7d:76 2c7e>23f 2c80~ 2ce2:2ce3 2ce3= 2ceb:2cec
   2cec= 2ced:2cee 2cee= 2cf2:2cf3 2cf3= 2cf4! 2cf9= 2d26! 2d27= 2d28! 2d2d= 2d2e! 2d30= 2d68!
   2d6f:2d61 2d70= 2d71! 2d7f= 2d97! 2da0= 2da7! 2da8= 2daf! 2db0= 2db7! 2db8= 2dbf! 2dc0=
   2dc7! 2dc8= 2dcf! 2dd0= 2dd7! 2dd8= 2ddf! 2de0= 2e5e! 2e80= 2e9a! 2e9b= 2e9f:6bcd 2ea0=
   2ef3:9f9f 2ef4! 2f00:4e00 2f01:4e28 2f02:4e36 2f03:4e3f 2f04:4e59 2f05:4e85 2f06:4e8c
   2f07:4ea0 2f08:4eba 2f09:513f 2f0a:5165 2f0b:516b 2f0c:5182 2f0d:5196 2f0e:51ab 2f0f:51e0
   2f10:51f5 2f11:5200 2f12:529b 2f13:52f9 2f14:5315 2f15:531a 2f16:5338 2f17:5341 2f18:535c
   2f19:5369 2f1a:5382 2f1b:53b6 2f1c:53c8 2f1d:53e3 2f1e:56d7 2f1f:571f 2f20:58eb 2f21:5902
   2f22:590a 2f23:5915 2f24:5927 2f25:5973 2f26:5b50 2f27:5b80 2f28:5bf8 2f29:5c0f 2f2a:5c22
   2f2b:5c38 2f2c:5c6e 2f2d:5c71 2f2e:5ddb 2f2f:5de5 2f30:5df1 2f31:5dfe 2f32:5e72 2f33:5e7a
   2f34:5e7f 2f35:5ef4 2f36:5efe 2f37:5f0b 2f38:5f13 2f39:5f50 2f3a:5f61 2f3b:5f73 2f3c:5fc3
   2f3d:6208 2f3e:6236 2f3f:624b 2f40:652f 2f41:6534 2f42:6587 2f43:6597 2f44:65a4 2f45:65b9
   2f46:65e0 2f47:65e5 2f48:66f0 2f49:6708 2f4a:6728 2f4b:6b20 2f4c:6b62 2f4d:6b79 2f4e:6bb3
   2f4f:6bcb 2f50:6bd4 2f51:6bdb 2f52:6c0f 2f53:6c14 2f54:6c34 2f55:706b 2f56:722a 2f57:7236
   2f58:723b 2f59:723f 2f5a:7247 2f5b:7259 2f5c:725b 2f5d:72ac 2f5e:7384 2f5f:7389 2f60:74dc
   2f61:74e6 2f62:7518 2f63:751f 2f64:7528 2f65:7530 2f66:758b 2f67:7592 2f68:7676 2f69:767d
   2f6a:76ae 2f6b:76bf 2f6c:76ee 2f6d:77db 2f6e:77e2 2f6f:77f3 2f70:793a 2f71:79b8 2f72:79be
   2f73:7a74 2f74:7acb 2f75:7af9 2f76:7c73 2f77:7cf8 2f78:7f36 2f79:7f51 2f7a:7f8a 2f7b:7fbd
   2f7c:8001 2f7d:800c 2f7e:8012 2f7f:8033 2f80:807f 2f81:8089 2f82:81e3 2f83:81ea 2f84:81f3
   2f85:81fc 2f86:820c 2f87:821b 2f88:821f 2f89:826e 2f8a:8272 2f8b:8278 2f8c:864d 2f8d:866b
   2f8e:8840 2f8f:884c 2f90:8863 2f91:897e 2f92:898b 2f93:89d2 2f94:8a00 2f95:8c37 2f96:8c46
   2f97:8c55 2f98:8c78 2f99:8c9d 2f9a:8d64 2f9b:8d70 2f9c:8db3 2f9d:8eab 2f9e:8eca 2f9f:8f9b
   2fa0:8fb0 2fa1:8fb5 2fa2:9091 2fa3:9149 2fa4:91c6 2fa5:91cc 2fa6:91d1 2fa7:9577 2fa8:9580
   2fa9:961c 2faa:96b6 2fab:96b9 2fac:96e8 2fad:9751 2fae:975e 2faf:9762 2fb0:9769 2fb1:97cb
   2fb2:97ed 2fb3:97f3 2fb4:9801 2fb5:98a8 2fb6:98db 2fb7:98df 2fb8:9996 2fb9:9999 2fba:99ac
   2fbb:9aa8 2fbc:9ad8 2fbd:9adf 2fbe:9b25 2fbf:9b2f 2fc0:9b32 2fc1:9b3c 2fc2:9b5a 2fc3:9ce5
   2fc4:9e75 2fc5:9e7f 2fc6:9ea5 2fc7:9ebb 2fc8:9ec3 2fc9:9ecd 2fca:9ed1 2fcb:9ef9 2fcc:9efd
   2fcd:9f0e 2fce:9f13 2fcf:9f20 2fd0:9f3b 2fd1:9f4a 2fd2:9f52 2fd3:9f8d 2fd4:9f9c 2fd5:9fa0
   2fd6! 3000:20 3001= 3002:2e 3003= 3036:3012 3037= 3038:5341 3039>5344 303b= 3040! 3041=
   3097! 3099= 309b:20_3099 309c:20_309a 309d= 309f:3088_308a 30a0= 30ff:30b3_30c8 3100! 3105=
   3130! 3131>1100 3133:11aa 3134:1102 3135>11ac 3137>1103 313a>11b0 3140:111a 3141>1106
   3144:1121 3145>1109 314f>1161 3164- 3165>1114 3167>11c7 3169:11cc 316a:11ce 316b:11d3
   316c:11d7 316d:11d9 316e:111c 316f:11dd 3170:11df 3171>111d 3173:1120 3174>1122 3176:1127
   3177:1129 3178>112b 317d:1132 317e:1136 317f:1140 3180:1147 3181:114c 3182>11f1 3184>1157
   3187>1184 3189:1188 318a>1191 318c:1194 318d:119e 318e:11a1 318f! 3190= 3192:4e00 3193:4e8c
   3194:4e09 3195:56db 3196:4e0a 3197:4e2d 3198:4e0b 3199:7532 319a:4e59 319b:4e19 319c:4e01
   319d:5929 319e:5730 319f:4eba 31a0= 31e6! 31f0= 3200:28_1100_29 3201:28_1102_29
   3202:28_1103_29 3203:28_1105_29 3204:28_1106_29 3205:28_1107_29 3206:28_1109_29
   3207:28_110b_29 3208:28_110c_29 3209:28_110e_29 320a:28_110f_29 320b:28_1110_29
   320c:28_1111_29 320d:28_1112_29 320e:28_ac00_29 320f:28_b098_29 3210:28_b2e4_29
   3211:28_b77c_29 3212:28_b9c8_29 3213:28_bc14_29 3214:28_c0ac_29 3215:28_c544_29
   3216:28_c790_29 3217:28_cc28_29 3218:28_ce74_29 3219:28_d0c0_29 321a:28_d30c_29
   321b:28_d558_29 321c:28_c8fc_29 321d:28_c624_c804_29 321e:28_c624_d6c4_29 321f!
   3220:28_4e00_29 3221:28_4e8c_29 3222:28_4e09_29 3223:28_56db_29 3224:28_4e94_29
   3225:28_516d_29 3226:28_4e03_29 3227:28_516b_29 3228:28_4e5d_29 3229:28_5341_29
   322a:28_6708_29 322b:28_706b_29 322c:28_6c34_29 322d:28_6728_29 322e:28_91d1_29
   322f:28_571f_29 3230:28_65e5_29 3231:28_682a_29 3232:28_6709_29 3233:28_793e_29
   3234:28_540d_29 3235:28_7279_29 3236:28_8ca1_29 3237:28_795d_29 3238:28_52b4_29
   3239:28_4ee3_29 323a:28_547c_29 323b:28_5b66_29 323c:28_76e3_29 323d:28_4f01_29
   323e:28_8cc7_29 323f:28_5354_29 3240:28_796d_29 3241:28_4f11_29 3242:28_81ea_29
   3243:28_81f3_29 3244:554f 3245:5e7c 3246:6587 3247:7b8f 3248= 3250:70_74_65 3251:32_31
   3252:32_32 3253:32_33 3254:32_34 3255:32_35 3256:32_36 3257:32_37 3258:32_38 3259:32_39
   325a:33_30 325b:33_31 325c:33_32 325d:33_33 325e:33_34 325f:33_35 3260:1100 3261>1102
   3263>1105 3266:1109 3267>110b 3269>110e 326e:ac00 326f:b098 3270:b2e4 3271:b77c 3272:b9c8
   3273:bc14 3274:c0ac 3275:c544 3276:c790 3277:cc28 3278:ce74 3279:d0c0 327a:d30c 327b:d558
   327c:cc38_ace0 327d:c8fc_c758 327e:c6b0 327f= 3280:4e00 3281:4e8c 3282:4e09 3283:56db
   3284:4e94 3285:516d 3286:4e03 3287:516b 3288:4e5d 3289:5341 328a:6708 328b:706b 328c:6c34
   328d:6728 328e:91d1 328f:571f 3290:65e5 3291:682a 3292:6709 3293:793e 3294:540d 3295:7279
   3296:8ca1 3297:795d 3298:52b4 3299:79d8 329a:7537 329b:5973 329c:9069 329d:512a 329e:5370
   329f:6ce8 32a0:9805 32a1:4f11 32a2:5199 32a3:6b63 32a4:4e0a 32a5:4e2d 32a6:4e0b 32a7:5de6
   32a8:53f3 32a9:533b 32aa:5b97 32ab:5b66 32ac:76e3 32ad:4f01 32ae:8cc7 32af:5354 32b0:591c
   32b1:33_36 32b2:33_37 32b3:33_38 32b4:33_39 32b5:34_30 32b6:34_31 32b7:34_32 32b8:34_33
   32b9:34_34 32ba:34_35 32bb:34_36 32bc:34_37 32bd:34_38 32be:34_39 32bf:35_30 32c0:31_6708
   32c1:32_6708 32c2:33_6708 32c3:34_6708 32c4:35_6708 32c5:36_6708 32c6:37_6708 32c7:38_6708
   32c8:39_6708 32c9:31_30_6708 32ca:31_31_6708 32cb:31_32_6708 32cc:68_67 32cd:65_72_67
   32ce:65_76 32cf:6c_74_64 32d0:30a2 32d1:30a4 32d2:30a6 32d3:30a8 32d4>30aa 32d6:30ad
   32d7:30af 32d8:30b1 32d9:30b3 32da:30b5 32db:30b7 32dc:30b9 32dd:30bb 32de:30bd 32df:30bf
   32e0:30c1 32e1:30c4 32e2:30c6 32e3:30c8 32e4>30ca 32ea:30d2 32eb:30d5 32ec:30d8 32ed:30db
   32ee>30de 32f3:30e4 32f4:30e6 32f5>30e8 32fb>30ef 32ff:4ee4_548c 3300:30a2_30d1_30fc_30c8
   3301:30a2_30eb_30d5_30a1 3302:30a2_30f3_30da_30a2 3303:30a2_30fc_30eb
   3304:30a4_30cb_30f3_30b0 3305:30a4_30f3_30c1 3306:30a6_30a9_30f3
   3307:30a8_30b9_30af_30fc_30c9 3308:30a8_30fc_30ab_30fc 3309:30aa_30f3_30b9
   330a:30aa_30fc_30e0 330b:30ab_30a4_30ea 330c:30ab_30e9_30c3_30c8 330d:30ab_30ed_30ea_30fc
   330e:30ac_30ed_30f3 330f:30ac_30f3_30de 3310:30ae_30ac 3311:30ae_30cb_30fc
   3312:30ad_30e5_30ea_30fc 3313:30ae_30eb_30c0_30fc 3314:30ad_30ed
   3315:30ad_30ed_30b0_30e9_30e0 3316:30ad_30ed_30e1_30fc_30c8_30eb
   3317:30ad_30ed_30ef_30c3_30c8 3318:30b0_30e9_30e0 3319:30b0_30e9_30e0_30c8_30f3
   331a:30af_30eb_30bc_30a4_30ed 331b:30af_30ed_30fc_30cd 331c:30b1_30fc_30b9
   331d:30b3_30eb_30ca 331e:30b3_30fc_30dd 331f:30b5_30a4_30af_30eb
   3320:30b5_30f3_30c1_30fc_30e0 3321:30b7_30ea_30f3_30b0 3322:30bb_30f3_30c1
   3323:30bb_30f3_30c8 3324:30c0_30fc_30b9 3325:30c7_30b7 3326:30c9_30eb 3327:30c8_30f3
   3328:30ca_30ce 3329:30ce_30c3_30c8 332a:30cf_30a4_30c4 332b:30d1_30fc_30bb_30f3_30c8
   332c:30d1_30fc_30c4 332d:30d0_30fc_30ec_30eb 332e:30d4_30a2_30b9_30c8_30eb
   332f:30d4_30af_30eb 3330:30d4_30b3 3331:30d3_30eb 3332:30d5_30a1_30e9_30c3_30c9
   3333:30d5_30a3_30fc_30c8 3334:30d6_30c3_30b7_30a7_30eb 3335:30d5_30e9_30f3
   3336:30d8_30af_30bf_30fc_30eb 3337:30da_30bd 3338:30da_30cb_30d2 3339:30d8_30eb_30c4
   333a:30da_30f3_30b9 333b:30da_30fc_30b8 333c:30d9_30fc_30bf 333d:30dd_30a4_30f3_30c8
   333e:30dc_30eb_30c8 333f:30db_30f3 3340:30dd_30f3_30c9 3341:30db_30fc_30eb
   3342:30db_30fc_30f3 3343:30de_30a4_30af_30ed 3344:30de_30a4_30eb 3345:30de_30c3_30cf
   3346:30de_30eb_30af 3347:30de_30f3_30b7_30e7_30f3 3348:30df_30af_30ed_30f3 3349:30df_30ea
   334a:30df_30ea_30d0_30fc_30eb 334b:30e1_30ac 334c:30e1_30ac_30c8_30f3
   334d:30e1_30fc_30c8_30eb 334e:30e4_30fc_30c9 334f:30e4_30fc_30eb 3350:30e6_30a2_30f3
   3351:30ea_30c3_30c8_30eb 3352:30ea_30e9 3353:30eb_30d4_30fc 3354:30eb_30fc_30d6_30eb
   3355:30ec_30e0 3356:30ec_30f3_30c8_30b2_30f3 3357:30ef_30c3_30c8 3358:30_70b9 3359:31_70b9
   335a:32_70b9 335b:33_70b9 335c:34_70b9 335d:35_70b9 335e:36_70b9 335f:37_70b9 3360:38_70b9
   3361:39_70b9 3362:31_30_70b9 3363:31_31_70b9 3364:31_32_70b9 3365:31_33_70b9 3366:31_34_70b9
   3367:31_35_70b9 3368:31_36_70b9 3369:31_37_70b9 336a:31_38_70b9 336b:31_39_70b9
   336c:32_30_70b9 336d:32_31_70b9 336e:32_32_70b9 336f:32_33_70b9 3370:32_34_70b9
   3371:68_70_61 3372:64_61 3373:61_75 3374:62_61_72 3375:6f_76 3376:70_63 3377:64_6d
   3378:64_6d_32 3379:64_6d_33 337a:69_75 337b:5e73_6210 337c:662d_548c 337d:5927_6b63
   337e:660e_6cbb 337f:682a_5f0f_4f1a_793e 3380:70_61 3381:6e_61 3382:3bc_61 3383:6d_61
   3384:6b_61 3385:6b_62 3386:6d_62 3387:67_62 3388:63_61_6c 3389:6b_63_61_6c 338a:70_66
   338b:6e_66 338c:3bc_66 338d:3bc_67 338e:6d_67 338f:6b_67 3390:68_7a 3391:6b_68_7a
   3392:6d_68_7a 3393:67_68_7a 3394:74_68_7a 3395:3bc_6c 3396:6d_6c 3397:64_6c 3398:6b_6c
   3399:66_6d 339a:6e_6d 339b:3bc_6d 339c:6d_6d 339d:63_6d 339e:6b_6d 339f:6d_6d_32
   33a0:63_6d_32 33a1:6d_32 33a2:6b_6d_32 33a3:6d_6d_33 33a4:63_6d_33 33a5:6d_33 33a6:6b_6d_33
   33a7:6d_2215_73 33a8:6d_2215_73_32 33a9:70_61 33aa:6b_70_61 33ab:6d_70_61 33ac:67_70_61
   33ad:72_61_64 33ae:72_61_64_2215_73 33af:72_61_64_2215_73_32 33b0:70_73 33b1:6e_73
   33b2:3bc_73 33b3:6d_73 33b4:70_76 33b5:6e_76 33b6:3bc_76 33b7:6d_76 33b8:6b_76 33b9:6d_76
   33ba:70_77 33bb:6e_77 33bc:3bc_77 33bd:6d_77 33be:6b_77 33bf:6d_77 33c0:6b_3c9 33c1:6d_3c9
   33c2! 33c3:62_71 33c4:63_63 33c5:63_64 33c6:63_2215_6b_67 33c7! 33c8:64_62 33c9:67_79
   33ca:68_61 33cb:68_70 33cc:69_6e 33cd:6b_6b 33ce:6b_6d 33cf:6b_74 33d0:6c_6d 33d1:6c_6e
   33d2:6c_6f_67 33d3:6c_78 33d4:6d_62 33d5:6d_69_6c 33d6:6d_6f_6c 33d7:70_68 33d8!
   33d9:70_70_6d 33da:70_72 33db:73_72 33dc:73_76 33dd:77_62 33de:76_2215_6d 33df:61_2215_6d
   33e0:31_65e5 33e1:32_65e5 33e2:33_65e5 33e3:34_65e5 33e4:35_65e5 33e5:36_65e5 33e6:37_65e5
   33e7:38_65e5 33e8:39_65e5 33e9:31_30_65e5 33ea:31_31_65e5 33eb:31_32_65e5 33ec:31_33_65e5
   33ed:31_34_65e5 33ee:31_35_65e5 33ef:31_36_65e5 33f0:31_37_65e5 33f1:31_38_65e5
   33f2:31_39_65e5 33f3:32_30_65e5 33f4:32_31_65e5 33f5:32_32_65e5 33f6:32_33_65e5
   33f7:32_34_65e5 33f8:32_35_65e5 33f9:32_36_65e5 33fa:32_37_65e5 33fb:32_38_65e5
   33fc:32_39_65e5 33fd:33_30_65e5 33fe:33_31_65e5 33ff:67_61_6c 3400= a48d! a490= a4c7! a4d0=
   a62c! a640~ a66c:a66d a66d= a680~ a69c:44a a69d:44c a69e= a6f8! a700= a722~ a72e:a72f a72f=
   a732~ a770:a76f a771= a779~ a77d:1d79 a77e~ a786:a787 a787= a78b:a78c a78c= a78d:265 a78e=
   a790:a791 a791= a792:a793 a793= a796~ a7aa:266 a7ab:25c a7ac:261 a7ad:26c a7ae:26a a7af=
   a7b0:29e a7b1:287 a7b2:29d a7b3:ab53 a7b4~ a7c4:a794 a7c5:282 a7c6:1d8e a7c7~ a7cb:264 a7cc~
   a7dc:19b a7dd! a7f1:73 a7f2:63 a7f3:66 a7f4:71 a7f5:a7f6 a7f6= a7f8:127 a7f9:153 a7fa= a82d!
   a830= a83a! a840= a878! a880= a8c6! a8ce= a8da! a8e0= a954! a95f= a97d! a980= a9ce! a9cf=
   a9da! a9de= a9ff! aa00= aa37! aa40= aa4e! aa50= aa5a! aa5c= aac3! aadb= aaf7! ab01= ab07!
   ab09= ab0f! ab11= ab17! ab20= ab27! ab28= ab2f! ab30= ab5c:a727 ab5d:ab37 ab5e:26b ab5f:ab52
   ab60= ab69:28d ab6a= ab6c! ab70>13a0 abc0= abee! abf0= abfa! ac00= d7a4! d7b0= d7c7! d7cb=
   d7fc! f900:8c48 f901:66f4 f902:8eca f903:8cc8 f904:6ed1 f905:4e32 f906:53e5 f907:9f9c
   f909:5951 f90a:91d1 f90b:5587 f90c:5948 f90d:61f6 f90e:7669 f90f:7f85 f910:863f f911:87ba
   f912:88f8 f913:908f f914:6a02 f915:6d1b f916:70d9 f917:73de f918:843d f919:916a f91a:99f1
   f91b:4e82 f91c:5375 f91d:6b04 f91e:721b f91f:862d f920:9e1e f921:5d50 f922:6feb f923:85cd
   f924:8964 f925:62c9 f926:81d8 f927:881f f928:5eca f929:6717 f92a:6d6a f92b:72fc f92c:90ce
   f92d:4f86 f92e:51b7 f92f:52de f930:64c4 f931:6ad3 f932:7210 f933:76e7 f934:8001 f935:8606
   f936:865c f937:8def f938:9732 f939:9b6f f93a:9dfa f93b:788c f93c:797f f93d:7da0 f93e:83c9
   f93f:9304 f940:9e7f f941:8ad6 f942:58df f943:5f04 f944:7c60 f945:807e f946:7262 f947:78ca
   f948:8cc2 f949:96f7 f94a:58d8 f94b:5c62 f94c:6a13 f94d:6dda f94e:6f0f f94f:7d2f f950:7e37
   f951:964b f952:52d2 f953:808b f954:51dc f955:51cc f956:7a1c f957:7dbe f958:83f1 f959:9675
   f95a:8b80 f95b:62cf f95c:6a02 f95d:8afe f95e:4e39 f95f:5be7 f960:6012 f961:7387 f962:7570
   f963:5317 f964:78fb f965:4fbf f966:5fa9 f967:4e0d f968:6ccc f969:6578 f96a:7d22 f96b:53c3
   f96c:585e f96d:7701 f96e:8449 f96f:8aaa f970:6bba f971:8fb0 f972:6c88 f973:62fe f974:82e5
   f975:63a0 f976:7565 f977:4eae f978:5169 f979:51c9 f97a:6881 f97b:7ce7 f97c:826f f97d:8ad2
   f97e:91cf f97f:52f5 f980:5442 f981:5973 f982:5eec f983:65c5 f984:6ffe f985:792a f986:95ad
   f987:9a6a f988:9e97 f989:9ece f98a:529b f98b:66c6 f98c:6b77 f98d:8f62 f98e:5e74 f98f:6190
   f990:6200 f991:649a f992:6f23 f993:7149 f994:7489 f995:79ca f996:7df4 f997:806f f998:8f26
   f999:84ee f99a:9023 f99b:934a f99c:5217 f99d:52a3 f99e:54bd f99f:70c8 f9a0:88c2 f9a1:8aaa
   f9a2:5ec9 f9a3:5ff5 f9a4:637b f9a5:6bae f9a6:7c3e f9a7:7375 f9a8:4ee4 f9a9:56f9 f9aa:5be7
   f9ab:5dba f9ac:601c f9ad:73b2 f9ae:7469 f9af:7f9a f9b0:8046 f9b1:9234 f9b2:96f6 f9b3:9748
   f9b4:9818 f9b5:4f8b f9b6:79ae f9b7:91b4 f9b8:96b8 f9b9:60e1 f9ba:4e86 f9bb:50da f9bc:5bee
   f9bd:5c3f f9be:6599 f9bf:6a02 f9c0:71ce f9c1:7642 f9c2:84fc f9c3:907c f9c4:9f8d f9c5:6688
   f9c6:962e f9c7:5289 f9c8:677b f9c9:67f3 f9ca:6d41 f9cb:6e9c f9cc:7409 f9cd:7559 f9ce:786b
   f9cf:7d10 f9d0:985e f9d1:516d f9d2:622e f9d3:9678 f9d4:502b f9d5:5d19 f9d6:6dea f9d7:8f2a
   f9d8:5f8b f9d9:6144 f9da:6817 f9db:7387 f9dc:9686 f9dd:5229 f9de:540f f9df:5c65 f9e0:6613
   f9e1:674e f9e2:68a8 f9e3:6ce5 f9e4:7406 f9e5:75e2 f9e6:7f79 f9e7:88cf f9e8:88e1 f9e9:91cc
   f9ea:96e2 f9eb:533f f9ec:6eba f9ed:541d f9ee:71d0 f9ef:7498 f9f0:85fa f9f1:96a3 f9f2:9c57
   f9f3:9e9f f9f4:6797 f9f5:6dcb f9f6:81e8 f9f7:7acb f9f8:7b20 f9f9:7c92 f9fa:72c0 f9fb:7099
   f9fc:8b58 f9fd:4ec0 f9fe:8336 f9ff:523a fa00:5207 fa01:5ea6 fa02:62d3 fa03:7cd6 fa04:5b85
   fa05:6d1e fa06:66b4 fa07:8f3b fa08:884c fa09:964d fa0a:898b fa0b:5ed3 fa0c:5140 fa0d:55c0
   fa0e= fa10:585a fa11= fa12:6674 fa13= fa15:51de fa16:732a fa17:76ca fa18:793c fa19:795e
   fa1a:7965 fa1b:798f fa1c:9756 fa1d:7cbe fa1e:7fbd fa1f= fa20:8612 fa21= fa22:8af8 fa23=
   fa25:9038 fa26:90fd fa27= fa2a:98ef fa2b:98fc fa2c:9928 fa2d:9db4 fa2e:90de fa2f:96b7
   fa30:4fae fa31:50e7 fa32:514d fa33:52c9 fa34:52e4 fa35:5351 fa36:559d fa37:5606 fa38:5668
   fa39:5840 fa3a:58a8 fa3b:5c64 fa3c:5c6e fa3d:6094 fa3e:6168 fa3f:618e fa40:61f2 fa41:654f
   fa42:65e2 fa43:6691 fa44:6885 fa45:6d77 fa46:6e1a fa47:6f22 fa48:716e fa49:722b fa4a:7422
   fa4b:7891 fa4c:793e fa4d:7949 fa4e:7948 fa4f:7950 fa50:7956 fa51:795d fa52>798d fa54:7a40
   fa55:7a81 fa56:7bc0 fa57:7df4 fa58:7e09 fa59:7e41 fa5a:7f72 fa5b:8005 fa5c:81ed fa5d:8279
   fa5f:8457 fa60:8910 fa61:8996 fa62:8b01 fa63:8b39 fa64:8cd3 fa65:8d08 fa66:8fb6 fa67:9038
   fa68:96e3 fa69:97ff fa6a:983b fa6b:6075 fa6c:242ee fa6d:8218 fa6e! fa70:4e26 fa71:51b5
   fa72:5168 fa73:4f80 fa74:5145 fa75:5180 fa76:52c7 fa77:52fa fa78:559d fa79:5555 fa7a:5599
   fa7b:55e2 fa7c:585a fa7d:58b3 fa7e:5944 fa7f:5954 fa80:5a62 fa81:5b28 fa82:5ed2 fa83:5ed9
   fa84:5f69 fa85:5fad fa86:60d8 fa87:614e fa88:6108 fa89:618e fa8a:6160 fa8b:61f2 fa8c:6234
   fa8d:63c4 fa8e:641c fa8f:6452 fa90:6556 fa91:6674 fa92:6717 fa93:671b fa94:6756 fa95:6b79
   fa96:6bba fa97:6d41 fa98:6edb fa99:6ecb fa9a:6f22 fa9b:701e fa9c:716e fa9d:77a7 fa9e:7235
   fa9f:72af faa0:732a faa1:7471 faa2:7506 faa3:753b faa4:761d faa5:761f faa6:76ca faa7:76db
   faa8:76f4 faa9:774a faaa:7740 faab:78cc faac:7ab1 faad:7bc0 faae:7c7b faaf:7d5b fab0:7df4
   fab1:7f3e fab2:8005 fab3:8352 fab4:83ef fab5:8779 fab6:8941 fab7:8986 fab8:8996 fab9:8abf
   faba:8af8 fabb:8acb fabc:8b01 fabd:8afe fabe:8aed fabf:8b39 fac0:8b8a fac1:8d08 fac2:8f38
   fac3:9072 fac4:9199 fac5:9276 fac6:967c fac7:96e3 fac8:9756 fac9:97db faca:97ff facb:980b
   facc:983b facd:9b12 face:9f9c facf:2284a fad0:22844 fad1:233d5 fad2:3b9d fad3:4018 fad4:4039
   fad5:25249 fad6:25cd0 fad7:27ed3 fad8:9f43 fad9:9f8e fada! fb00:66_66 fb01:66_69 fb02:66_6c
   fb03:66_66_69 fb04:66_66_6c fb05:73_74 fb07! fb13:574_576 fb14:574_565 fb15:574_56b
   fb16:57e_576 fb17:574_56d fb18! fb1d:5d9_5b4 fb1e= fb1f:5f2_5b7 fb20:5e2 fb21:5d0 fb22>5d3
   fb24>5db fb27:5e8 fb28:5ea fb29:2b fb2a:5e9_5c1 fb2b:5e9_5c2 fb2c:5e9_5bc_5c1
   fb2d:5e9_5bc_5c2 fb2e:5d0_5b7 fb2f:5d0_5b8 fb30:5d0_5bc fb31:5d1_5bc fb32:5d2_5bc
   fb33:5d3_5bc fb34:5d4_5bc fb35:5d5_5bc fb36:5d6_5bc fb37! fb38:5d8_5bc fb39:5d9_5bc
   fb3a:5da_5bc fb3b:5db_5bc fb3c:5dc_5bc fb3d! fb3e:5de_5bc fb3f! fb40:5e0_5bc fb41:5e1_5bc
   fb42! fb43:5e3_5bc fb44:5e4_5bc fb45! fb46:5e6_5bc fb47:5e7_5bc fb48:5e8_5bc fb49:5e9_5bc
   fb4a:5ea_5bc fb4b:5d5_5b9 fb4c:5d1_5bf fb4d:5db_5bf fb4e:5e4_5bf fb4f:5d0_5dc fb50:671
   fb52:67b fb56:67e fb5a:680 fb5e:67a fb62:67f fb66:679 fb6a:6a4 fb6e:6a6 fb72:684 fb76:683
   fb7a:686 fb7e:687 fb82:68d fb84:68c fb86:68e fb88:688 fb8a:698 fb8c:691 fb8e:6a9 fb92:6af
   fb96:6b3 fb9a:6b1 fb9e:6ba fba0:6bb fba4:6c0 fba6:6c1 fbaa:6be fbae:6d2 fbb0:6d3 fbb2=
   fbd3:6ad fbd7:6c7 fbd9:6c6 fbdb:6c8 fbdd:6c7_674 fbde:6cb fbe0:6c5 fbe2:6c9 fbe4:6d0
   fbe8:649 fbea:626_627 fbec:626_6d5 fbee:626_648 fbf0:626_6c7 fbf2:626_6c6 fbf4:626_6c8
   fbf6:626_6d0 fbf9:626_649 fbfc:6cc fc00:626_62c fc01:626_62d fc02:626_645 fc03:626_649
   fc04:626_64a fc05:628_62c fc06:628_62d fc07:628_62e fc08:628_645 fc09:628_649 fc0a:628_64a
   fc0b:62a_62c fc0c:62a_62d fc0d:62a_62e fc0e:62a_645 fc0f:62a_649 fc10:62a_64a fc11:62b_62c
   fc12:62b_645 fc13:62b_649 fc14:62b_64a fc15:62c_62d fc16:62c_645 fc17:62d_62c fc18:62d_645
   fc19:62e_62c fc1a:62e_62d fc1b:62e_645 fc1c:633_62c fc1d:633_62d fc1e:633_62e fc1f:633_645
   fc20:635_62d fc21:635_645 fc22:636_62c fc23:636_62d fc24:636_62e fc25:636_645 fc26:637_62d
   fc27:637_645 fc28:638_645 fc29:639_62c fc2a:639_645 fc2b:63a_62c fc2c:63a_645 fc2d:641_62c
   fc2e:641_62d fc2f:641_62e fc30:641_645 fc31:641_649 fc32:641_64a fc33:642_62d fc34:642_645
   fc35:642_649 fc36:642_64a fc37:643_627 fc38:643_62c fc39:643_62d fc3a:643_62e fc3b:643_644
   fc3c:643_645 fc3d:643_649 fc3e:643_64a fc3f:644_62c fc40:644_62d fc41:644_62e fc42:644_645
   fc43:644_649 fc44:644_64a fc45:645_62c fc46:645_62d fc47:645_62e fc48:645_645 fc49:645_649
   fc4a:645_64a fc4b:646_62c fc4c:646_62d fc4d:646_62e fc4e:646_645 fc4f:646_649 fc50:646_64a
   fc51:647_62c fc52:647_645 fc53:647_649 fc54:647_64a fc55:64a_62c fc56:64a_62d fc57:64a_62e
   fc58:64a_645 fc59:64a_649 fc5a:64a_64a fc5b:630_670 fc5c:631_670 fc5d:649_670
   fc5e:20_64c_651 fc5f:20_64d_651 fc60:20_64e_651 fc61:20_64f_651 fc62:20_650_651
   fc63:20_651_670 fc64:626_631 fc65:626_632 fc66:626_645 fc67:626_646 fc68:626_649
   fc69:626_64a fc6a:628_631 fc6b:628_632 fc6c:628_645 fc6d:628_646 fc6e:628_649 fc6f:628_64a
   fc70:62a_631 fc71:62a_632 fc72:62a_645 fc73:62a_646 fc74:62a_649 fc75:62a_64a fc76:62b_631
   fc77:62b_632 fc78:62b_645 fc79:62b_646 fc7a:62b_649 fc7b:62b_64a fc7c:641_649 fc7d:641_64a
   fc7e:642_649 fc7f:642_64a fc80:643_627 fc81:643_644 fc82:643_645 fc83:643_649 fc84:643_64a
   fc85:644_645 fc86:644_649 fc87:644_64a fc88:645_627 fc89:645_645 fc8a:646_631 fc8b:646_632
   fc8c:646_645 fc8d:646_646 fc8e:646_649 fc8f:646_64a fc90:649_670 fc91:64a_631 fc92:64a_632
   fc93:64a_645 fc94:64a_646 fc95:64a_649 fc96:64a_64a fc97:626_62c fc98:626_62d fc99:626_62e
   fc9a:626_645 fc9b:626_647 fc9c:628_62c fc9d:628_62d fc9e:628_62e fc9f:628_645 fca0:628_647
   fca1:62a_62c fca2:62a_62d fca3:62a_62e fca4:62a_645 fca5:62a_647 fca6:62b_645 fca7:62c_62d
   fca8:62c_645 fca9:62d_62c fcaa:62d_645 fcab:62e_62c fcac:62e_645 fcad:633_62c fcae:633_62d
   fcaf:633_62e fcb0:633_645 fcb1:635_62d fcb2:635_62e fcb3:635_645 fcb4:636_62c fcb5:636_62d
   fcb6:636_62e fcb7:636_645 fcb8:637_62d fcb9:638_645 fcba:639_62c fcbb:639_645 fcbc:63a_62c
   fcbd:63a_645 fcbe:641_62c fcbf:641_62d fcc0:641_62e fcc1:641_645 fcc2:642_62d fcc3:642_645
   fcc4:643_62c fcc5:643_62d fcc6:643_62e fcc7:643_644 fcc8:643_645 fcc9:644_62c fcca:644_62d
   fccb:644_62e fccc:644_645 fccd:644_647 fcce:645_62c fccf:645_62d fcd0:645_62e fcd1:645_645
   fcd2:646_62c fcd3:646_62d fcd4:646_62e fcd5:646_645 fcd6:646_647 fcd7:647_62c fcd8:647_645
   fcd9:647_670 fcda:64a_62c fcdb:64a_62d fcdc:64a_62e fcdd:64a_645 fcde:64a_647 fcdf:626_645
   fce0:626_647 fce1:628_645 fce2:628_647 fce3:62a_645 fce4:62a_647 fce5:62b_645 fce6:62b_647
   fce7:633_645 fce8:633_647 fce9:634_645 fcea:634_647 fceb:643_644 fcec:643_645 fced:644_645
   fcee:646_645 fcef:646_647 fcf0:64a_645 fcf1:64a_647 fcf2:640_64e_651 fcf3:640_64f_651
   fcf4:640_650_651 fcf5:637_649 fcf6:637_64a fcf7:639_649 fcf8:639_64a fcf9:63a_649
   fcfa:63a_64a fcfb:633_649 fcfc:633_64a fcfd:634_649 fcfe:634_64a fcff:62d_649 fd00:62d_64a
   fd01:62c_649 fd02:62c_64a fd03:62e_649 fd04:62e_64a fd05:635_649 fd06:635_64a fd07:636_649
   fd08:636_64a fd09:634_62c fd0a:634_62d fd0b:634_62e fd0c:634_645 fd0d:634_631 fd0e:633_631
   fd0f:635_631 fd10:636_631 fd11:637_649 fd12:637_64a fd13:639_649 fd14:639_64a fd15:63a_649
   fd16:63a_64a fd17:633_649 fd18:633_64a fd19:634_649 fd1a:634_64a fd1b:62d_649 fd1c:62d_64a
   fd1d:62c_649 fd1e:62c_64a fd1f:62e_649 fd20:62e_64a fd21:635_649 fd22:635_64a fd23:636_649
   fd24:636_64a fd25:634_62c fd26:634_62d fd27:634_62e fd28:634_645 fd29:634_631 fd2a:633_631
   fd2b:635_631 fd2c:636_631 fd2d:634_62c fd2e:634_62d fd2f:634_62e fd30:634_645 fd31:633_647
   fd32:634_647 fd33:637_645 fd34:633_62c fd35:633_62d fd36:633_62e fd37:634_62c fd38:634_62d
   fd39:634_62e fd3a:637_645 fd3b:638_645 fd3c:627_64b fd3e= fd50:62a_62c_645 fd51:62a_62d_62c
   fd53:62a_62d_645 fd54:62a_62e_645 fd55:62a_645_62c fd56:62a_645_62d fd57:62a_645_62e
   fd58:62c_645_62d fd5a:62d_645_64a fd5b:62d_645_649 fd5c:633_62d_62c fd5d:633_62c_62d
   fd5e:633_62c_649 fd5f:633_645_62d fd61:633_645_62c fd62:633_645_645 fd64:635_62d_62d
   fd66:635_645_645 fd67:634_62d_645 fd69:634_62c_64a fd6a:634_645_62e fd6c:634_645_645
   fd6e:636_62d_649 fd6f:636_62e_645 fd71:637_645_62d fd73:637_645_645 fd74:637_645_64a
   fd75:639_62c_645 fd76:639_645_645 fd78:639_645_649 fd79:63a_645_645 fd7a:63a_645_64a
   fd7b:63a_645_649 fd7c:641_62e_645 fd7e:642_645_62d fd7f:642_645_645 fd80:644_62d_645
   fd81:644_62d_64a fd82:644_62d_649 fd83:644_62c_62c fd85:644_62e_645 fd87:644_645_62d
   fd89:645_62d_62c fd8a:645_62d_645 fd8b:645_62d_64a fd8c:645_62c_62d fd8d:645_62c_645
   fd8e:645_62e_62c fd8f:645_62e_645 fd90= fd92:645_62c_62e fd93:647_645_62c fd94:647_645_645
   fd95:646_62d_645 fd96:646_62d_649 fd97:646_62c_645 fd99:646_62c_649 fd9a:646_645_64a
   fd9b:646_645_649 fd9c:64a_645_645 fd9e:628_62e_64a fd9f:62a_62c_64a fda0:62a_62c_649
   fda1:62a_62e_64a fda2:62a_62e_649 fda3:62a_645_64a fda4:62a_645_649 fda5:62c_645_64a
   fda6:62c_62d_649 fda7:62c_645_649 fda8:633_62e_649 fda9:635_62d_64a fdaa:634_62d_64a
   fdab:636_62d_64a fdac:644_62c_64a fdad:644_645_64a fdae:64a_62d_64a fdaf:64a_62c_64a
   fdb0:64a_645_64a fdb1:645_645_64a fdb2:642_645_64a fdb3:646_62d_64a fdb4:642_645_62d
   fdb5:644_62d_645 fdb6:639_645_64a fdb7:643_645_64a fdb8:646_62c_62d fdb9:645_62e_64a
   fdba:644_62c_645 fdbb:643_645_645 fdbc:644_62c_645 fdbd:646_62c_62d fdbe:62c_62d_64a
   fdbf:62d_62c_64a fdc0:645_62c_64a fdc1:641_645_64a fdc2:628_62d_64a fdc3:643_645_645
   fdc4:639_62c_645 fdc5:635_645_645 fdc6:633_62e_64a fdc7:646_62c_64a fdc8= fdd0!
   fdf0:635_644_6d2 fdf1:642_644_6d2 fdf2:627_644_644_647 fdf3:627_643_628_631
   fdf4:645_62d_645_62f fdf5:635_644_639_645 fdf6:631_633_648_644 fdf7:639_644_64a_647
   fdf8:648_633_644_645 fdf9:635_644_649
   fdfa:635_644_649_20_627_644_644_647_20_639_644_64a_647_20_648_633_644_645
   fdfb:62c_644_20_62c_644_627_644_647 fdfc:631_6cc_627_644 fdfd= fe00- fe10:2c fe11:3001 fe12!
   fe13>3a fe15:21 fe16:3f fe17>3016 fe19! fe20= fe30! fe31:2014 fe32:2013 fe33:5f fe35>28
   fe37:7b fe38:7d fe39>3014 fe3b>3010 fe3d>300a fe3f>3008 fe41>300c fe45= fe47:5b fe48:5d
   fe49:20_305 fe4d:5f fe50:2c fe51:3001 fe52! fe54:3b fe55:3a fe56:3f fe57:21 fe58:2014
   fe59>28 fe5b:7b fe5c:7d fe5d>3014 fe5f:23 fe60:26 fe61>2a fe63:2d fe64:3c fe65:3e fe66:3d
   fe67! fe68:5c fe69>24 fe6b:40 fe6c! fe70:20_64b fe71:640_64b fe72:20_64c fe73= fe74:20_64d
   fe75! fe76:20_64e fe77:640_64e fe78:20_64f fe79:640_64f fe7a:20_650 fe7b:640_650 fe7c:20_651
   fe7d:640_651 fe7e:20_652 fe7f:640_652 fe80:621 fe81:622 fe83:623 fe85:624 fe87:625 fe89:626
   fe8d:627 fe8f:628 fe93:629 fe95:62a fe99:62b fe9d:62c fea1:62d fea5:62e fea9:62f feab:630
   fead:631 feaf:632 feb1:633 feb5:634 feb9:635 febd:636 fec1:637 fec5:638 fec9:639 fecd:63a
   fed1:641 fed5:642 fed9:643 fedd:644 fee1:645 fee5:646 fee9:647 feed:648 feef:649 fef1:64a
   fef5:644_622 fef7:644_623 fef9:644_625 fefb:644_627 fefd! feff- ff00! ff01>21 ff21>61
   ff3b>5b ff5f>2985 ff61:2e ff62>300c ff64:3001 ff65:30fb ff66:30f2 ff67:30a1 ff68:30a3
   ff69:30a5 ff6a:30a7 ff6b:30a9 ff6c:30e3 ff6d:30e5 ff6e:30e7 ff6f:30c3 ff70:30fc ff71:30a2
   ff72:30a4 ff73:30a6 ff74:30a8 ff75>30aa ff77:30ad ff78:30af ff79:30b1 ff7a:30b3 ff7b:30b5
   ff7c:30b7 ff7d:30b9 ff7e:30bb ff7f:30bd ff80:30bf ff81:30c1 ff82:30c4 ff83:30c6 ff84:30c8
   ff85>30ca ff8b:30d2 ff8c:30d5 ff8d:30d8 ff8e:30db ff8f>30de ff94:30e4 ff95:30e6 ff96>30e8
   ff9c:30ef ff9d:30f3 ff9e>3099 ffa0- ffa1>1100 ffa3:11aa ffa4:1102 ffa5>11ac ffa7>1103
   ffaa>11b0 ffb0:111a ffb1>1106 ffb4:1121 ffb5>1109 ffbf! ffc2>1161 ffc8! ffca>1167 ffd0!
   ffd2>116d ffd8! ffda>1173 ffdd! ffe0>a2 ffe2:ac ffe3:20_304 ffe4:a6 ffe5:a5 ffe6:20a9 ffe7!
   ffe8:2502 ffe9>2190 ffed:25a0 ffee:25cb ffef! 10000= 1000c! 1000d= 10027! 10028= 1003b!
   1003c= 1003e! 1003f= 1004e! 10050= 1005e! 10080= 100fb! 10100= 10103! 10107= 10134! 10137=
   1018f! 10190= 1019d! 101a0= 101a1! 101d0= 101fe! 10280= 1029d! 102a0= 102d1! 102e0= 102fc!
   10300= 10324! 1032d= 1034b! 10350= 1037b! 10380= 1039e! 1039f= 103c4! 103c8= 103d6!
   10400>10428 10428= 1049e! 104a0= 104aa! 104b0>104d8 104d4! 104d8= 104fc! 10500= 10528!
   10530= 10564! 1056f= 10570>10597 1057b! 1057c>105a3 1058b! 1058c>105b3 10593! 10594>105bb
   10596! 10597= 105a2! 105a3= 105b2! 105b3= 105ba! 105bb= 105bd! 105c0= 105f4! 10600= 10737!
   10740= 10756! 10760= 10768! 10780= 10781>2d0 10783:e6 10784:299 10785:253 10786! 10787:2a3
   10788:ab66 10789:2a5 1078a:2a4 1078b>256 1078d:1d91 1078e:258 1078f:25e 10790:2a9 10791:264
   10792:262 10793:260 10794:29b 10795:127 10796:29c 10797:267 10798:284 10799>2aa 1079b:26c
   1079c:1df04 1079d:a78e 1079e:26e 1079f:1df05 107a0:28e 107a1:1df06 107a2:f8 107a3>276
   107a5:71 107a6:27a 107a7:1df08 107a8>27d 107aa:280 107ab:2a8 107ac:2a6 107ad:ab67 107ae:2a7
   107af:288 107b0:2c71 107b1! 107b2:28f 107b3>2a1 107b5:298 107b6>1c0 107b9:1df0a 107ba:1df1e
   107bb! 10800= 10806! 10808= 10809! 1080a= 10836! 10837= 10839! 1083c= 1083d! 1083f= 10856!
   10857= 1089f! 108a7= 108b0! 108e0= 108f3! 108f4= 108f6! 108fb= 1091c! 1091f= 1093a! 1093f=
   1095a! 10980= 109b8! 109bc= 109d0! 109d2= 10a04! 10a05= 10a07! 10a0c= 10a14! 10a15= 10a18!
   10a19= 10a36! 10a38= 10a3b! 10a3f= 10a49! 10a50= 10a59! 10a60= 10aa0! 10ac0= 10ae7! 10aeb=
   10af7! 10b00= 10b36! 10b39= 10b56! 10b58= 10b73! 10b78= 10b92! 10b99= 10b9d! 10ba9= 10bb0!
   10c00= 10c49! 10c80>10cc0 10cb3! 10cc0= 10cf3! 10cfa= 10d28! 10d30= 10d3a! 10d40=
   10d50>10d70 10d66! 10d69= 10d86! 10d8e= 10d90! 10e60= 10e7f! 10e80= 10eaa! 10eab= 10eae!
   10eb0= 10eb2! 10ec2= 10ec8! 10ed0= 10ed9! 10efa= 10f28! 10f30= 10f5a! 10f70= 10f8a! 10fb0=
   10fcc! 10fe0= 10ff7! 11000= 1104e! 11052= 11076! 1107f= 110bd! 110be= 110c3! 110d0= 110e9!
   110f0= 110fa! 11100= 11135! 11136= 11148! 11150= 11177! 11180= 111e0! 111e1= 111f5! 11200=
   11212! 11213= 11242! 11280= 11287! 11288= 11289! 1128a= 1128e! 1128f= 1129e! 1129f= 112aa!
   112b0= 112eb! 112f0= 112fa! 11300= 11304! 11305= 1130d! 1130f= 11311! 11313= 11329! 1132a=
   11331! 11332= 11334! 11335= 1133a! 1133b= 11345! 11347= 11349! 1134b= 1134e! 11350= 11351!
   11357= 11358! 1135d= 11364! 11366= 1136d! 11370= 11375! 11380= 1138a! 1138b= 1138c! 1138e=
   1138f! 11390= 113b6! 113b7= 113c1! 113c2= 113c3! 113c5= 113c6! 113c7= 113cb! 113cc= 113d6!
   113d7= 113d9! 113e1= 113e3! 11400= 1145c! 1145d= 11462! 11480= 114c8! 114d0= 114da! 11580=
   115b6! 115b8= 115de! 11600= 11645! 11650= 1165a! 11660= 1166d! 11680= 116ba! 116c0= 116ca!
   116d0= 116e4! 11700= 1171b! 1171d= 1172c! 11730= 11747! 11800= 1183c! 118a0>118c0 118c0=
   118f3! 118ff= 11907! 11909= 1190a! 1190c= 11914! 11915= 11917! 11918= 11936! 11937= 11939!
   1193b= 11947! 11950= 1195a! 119a0= 119a8! 119aa= 119d8! 119da= 119e5! 11a00= 11a48! 11a50=
   11aa3! 11ab0= 11af9! 11b00= 11b0a! 11b60= 11b68! 11bc0= 11be2! 11bf0= 11bfa! 11c00= 11c09!
   11c0a= 11c37! 11c38= 11c46! 11c50= 11c6d! 11c70= 11c90! 11c92= 11ca8! 11ca9= 11cb7! 11d00=
   11d07! 11d08= 11d0a! 11d0b= 11d37! 11d3a= 11d3b! 11d3c= 11d3e! 11d3f= 11d48! 11d50= 11d5a!
   11d60= 11d66! 11d67= 11d69! 11d6a= 11d8f! 11d90= 11d92! 11d93= 11d99! 11da0= 11daa! 11db0=
   11ddc! 11de0= 11dea! 11ee0= 11ef9! 11f00= 11f11! 11f12= 11f3b! 11f3e= 11f5b! 11fb0= 11fb1!
   11fc0= 11ff2! 11fff= 1239a! 12400= 1246f! 12470= 12475! 12480= 12544! 12f90= 12ff3! 13000=
   13430! 13440= 13456! 13460= 143fb! 14400= 14647! 16100= 1613a! 16800= 16a39! 16a40= 16a5f!
   16a60= 16a6a! 16a6e= 16abf! 16ac0= 16aca! 16ad0= 16aee! 16af0= 16af6! 16b00= 16b46! 16b50=
   16b5a! 16b5b= 16b62! 16b63= 16b78! 16b7d= 16b90! 16d40= 16d7a! 16e40>16e60 16e60= 16e9b!
   16ea0>16ebb 16eb9! 16ebb= 16ed4! 16f00= 16f4b! 16f4f= 16f88! 16f8f= 16fa0! 16fe0= 16fe5!
   16ff0= 16ff7! 17000= 18cd6! 18cff= 18d1f! 18d80= 18df3! 1aff0= 1aff4! 1aff5= 1affc! 1affd=
   1afff! 1b000= 1b123! 1b132= 1b133! 1b150= 1b153! 1b155= 1b156! 1b164= 1b168! 1b170= 1b2fc!
   1bc00= 1bc6b! 1bc70= 1bc7d! 1bc80= 1bc89! 1bc90= 1bc9a! 1bc9c= 1bca0- 1bca4! 1cc00= 1ccd6>61
   1ccf0>30 1ccfa= 1ccfd! 1cd00= 1ceb4! 1ceba= 1ced1! 1cee0= 1cef1! 1cf00= 1cf2e! 1cf30= 1cf47!
   1cf50= 1cfc4! 1d000= 1d0f6! 1d100= 1d127! 1d129= 1d15e:1d157_1d165 1d15f:1d158_1d165
   1d160:1d158_1d165_1d16e 1d161:1d158_1d165_1d16f 1d162:1d158_1d165_1d170
   1d163:1d158_1d165_1d171 1d164:1d158_1d165_1d172 1d165= 1d173- 1d17b= 1d1bb:1d1b9_1d165
   1d1bc:1d1ba_1d165 1d1bd:1d1b9_1d165_1d16e 1d1be:1d1ba_1d165_1d16e 1d1bf:1d1b9_1d165_1d16f
   1d1c0:1d1ba_1d165_1d16f 1d1c1= 1d1eb! 1d200= 1d246! 1d2c0= 1d2d4! 1d2e0= 1d2f4! 1d300=
   1d357! 1d360= 1d379! 1d400>61 1d41a>61 1d434>61 1d44e>61 1d455! 1d456>69 1d468>61 1d482>61
   1d49c:61 1d49d! 1d49e>63 1d4a0! 1d4a2:67 1d4a3! 1d4a5>6a 1d4a7! 1d4a9>6e 1d4ad! 1d4ae>73
   1d4b6>61 1d4ba! 1d4bb:66 1d4bc! 1d4bd>68 1d4c4! 1d4c5>70 1d4d0>61 1d4ea>61 1d504>61 1d506!
   1d507>64 1d50b! 1d50d>6a 1d515! 1d516>73 1d51d! 1d51e>61 1d538>61 1d53a! 1d53b>64 1d53f!
   1d540>69 1d545! 1d546:6f 1d547! 1d54a>73 1d551! 1d552>61 1d56c>61 1d586>61 1d5a0>61 1d5ba>61
   1d5d4>61 1d5ee>61 1d608>61 1d622>61 1d63c>61 1d656>61 1d670>61 1d68a>61 1d6a4:131 1d6a5:237
   1d6a6! 1d6a8>3b1 1d6b9:3b8 1d6ba>3c3 1d6c1:2207 1d6c2>3b1 1d6d3:3c3 1d6d5>3c4 1d6db:2202
   1d6dc:3b5 1d6dd:3b8 1d6de:3ba 1d6df:3c6 1d6e0:3c1 1d6e1:3c0 1d6e2>3b1 1d6f3:3b8 1d6f4>3c3
   1d6fb:2207 1d6fc>3b1 1d70d:3c3 1d70f>3c4 1d715:2202 1d716:3b5 1d717:3b8 1d718:3ba 1d719:3c6
   1d71a:3c1 1d71b:3c0 1d71c>3b1 1d72d:3b8 1d72e>3c3 1d735:2207 1d736>3b1 1d747:3c3 1d749>3c4
   1d74f:2202 1d750:3b5 1d751:3b8 1d752:3ba 1d753:3c6 1d754:3c1 1d755:3c0 1d756>3b1 1d767:3b8
   1d768>3c3 1d76f:2207 1d770>3b1 1d781:3c3 1d783>3c4 1d789:2202 1d78a:3b5 1d78b:3b8 1d78c:3ba
   1d78d:3c6 1d78e:3c1 1d78f:3c0 1d790>3b1 1d7a1:3b8 1d7a2>3c3 1d7a9:2207 1d7aa>3b1 1d7bb:3c3
   1d7bd>3c4 1d7c3:2202 1d7c4:3b5 1d7c5:3b8 1d7c6:3ba 1d7c7:3c6 1d7c8:3c1 1d7c9:3c0 1d7ca:3dd
   1d7cc! 1d7ce>30 1d7d8>30 1d7e2>30 1d7ec>30 1d7f6>30 1d800= 1da8c! 1da9b= 1daa0! 1daa1=
   1dab0! 1df00= 1df1f! 1df25= 1df2b! 1e000= 1e007! 1e008= 1e019! 1e01b= 1e022! 1e023= 1e025!
   1e026= 1e02b! 1e030>430 1e039>43a 1e03c>43e 1e047:44b 1e048>44d 1e04a:a689 1e04b:4d9
   1e04c:456 1e04d:458 1e04e:4e9 1e04f:4af 1e050:4cf 1e051>430 1e05a>43a 1e05c>43e 1e05e:441
   1e05f>443 1e065>44a 1e067:491 1e068:456 1e069:455 1e06a:45f 1e06b:4ab 1e06c:a651 1e06d:4b1
   1e06e! 1e08f= 1e090! 1e100= 1e12d! 1e130= 1e13e! 1e140= 1e14a! 1e14e= 1e150! 1e290= 1e2af!
   1e2c0= 1e2fa! 1e2ff= 1e300! 1e4d0= 1e4fa! 1e5d0= 1e5fb! 1e5ff= 1e600! 1e6c0= 1e6df! 1e6e0=
   1e6f6! 1e6fe= 1e700! 1e7e0= 1e7e7! 1e7e8= 1e7ec! 1e7ed= 1e7ef! 1e7f0= 1e7ff! 1e800= 1e8c5!
   1e8c7= 1e8d7! 1e900>1e922 1e922= 1e94c! 1e950= 1e95a! 1e95e= 1e960! 1ec71= 1ecb5! 1ed01=
   1ed3e! 1ee00>627 1ee02:62c 1ee03:62f 1ee04! 1ee05:648 1ee06:632 1ee07:62d 1ee08:637
   1ee09:64a 1ee0a>643 1ee0e:633 1ee0f:639 1ee10:641 1ee11:635 1ee12:642 1ee13:631 1ee14:634
   1ee15>62a 1ee17:62e 1ee18:630 1ee19:636 1ee1a:638 1ee1b:63a 1ee1c:66e 1ee1d:6ba 1ee1e:6a1
   1ee1f:66f 1ee20! 1ee21:628 1ee22:62c 1ee23! 1ee24:647 1ee25! 1ee27:62d 1ee28! 1ee29:64a
   1ee2a>643 1ee2e:633 1ee2f:639 1ee30:641 1ee31:635 1ee32:642 1ee33! 1ee34:634 1ee35>62a
   1ee37:62e 1ee38! 1ee39:636 1ee3a! 1ee3b:63a 1ee3c! 1ee42:62c 1ee43! 1ee47:62d 1ee48!
   1ee49:64a 1ee4a! 1ee4b:644 1ee4c! 1ee4d:646 1ee4e:633 1ee4f:639 1ee50! 1ee51:635 1ee52:642
   1ee53! 1ee54:634 1ee55! 1ee57:62e 1ee58! 1ee59:636 1ee5a! 1ee5b:63a 1ee5c! 1ee5d:6ba 1ee5e!
   1ee5f:66f 1ee60! 1ee61:628 1ee62:62c 1ee63! 1ee64:647 1ee65! 1ee67:62d 1ee68:637 1ee69:64a
   1ee6a:643 1ee6b! 1ee6c>645 1ee6e:633 1ee6f:639 1ee70:641 1ee71:635 1ee72:642 1ee73!
   1ee74:634 1ee75>62a 1ee77:62e 1ee78! 1ee79:636 1ee7a:638 1ee7b:63a 1ee7c:66e 1ee7d!
   1ee7e:6a1 1ee7f! 1ee80>627 1ee82:62c 1ee83:62f 1ee84>647 1ee86:632 1ee87:62d 1ee88:637
   1ee89:64a 1ee8a! 1ee8b>644 1ee8e:633 1ee8f:639 1ee90:641 1ee91:635 1ee92:642 1ee93:631
   1ee94:634 1ee95>62a 1ee97:62e 1ee98:630 1ee99:636 1ee9a:638 1ee9b:63a 1ee9c! 1eea1:628
   1eea2:62c 1eea3:62f 1eea4! 1eea5:648 1eea6:632 1eea7:62d 1eea8:637 1eea9:64a 1eeaa!
   1eeab>644 1eeae:633 1eeaf:639 1eeb0:641 1eeb1:635 1eeb2:642 1eeb3:631 1eeb4:634 1eeb5>62a
   1eeb7:62e 1eeb8:630 1eeb9:636 1eeba:638 1eebb:63a 1eebc! 1eef0= 1eef2! 1f000= 1f02c! 1f030=
   1f094! 1f0a0= 1f0af! 1f0b1= 1f0c0! 1f0c1= 1f0d0! 1f0d1= 1f0f6! 1f101:30_2c 1f102:31_2c
   1f103:32_2c 1f104:33_2c 1f105:34_2c 1f106:35_2c 1f107:36_2c 1f108:37_2c 1f109:38_2c
   1f10a:39_2c 1f10b= 1f110:28_61_29 1f111:28_62_29 1f112:28_63_29 1f113:28_64_29
   1f114:28_65_29 1f115:28_66_29 1f116:28_67_29 1f117:28_68_29 1f118:28_69_29 1f119:28_6a_29
   1f11a:28_6b_29 1f11b:28_6c_29 1f11c:28_6d_29 1f11d:28_6e_29 1f11e:28_6f_29 1f11f:28_70_29
   1f120:28_71_29 1f121:28_72_29 1f122:28_73_29 1f123:28_74_29 1f124:28_75_29 1f125:28_76_29
   1f126:28_77_29 1f127:28_78_29 1f128:28_79_29 1f129:28_7a_29 1f12a:3014_73_3015 1f12b:63
   1f12c:72 1f12d:63_64 1f12e:77_7a 1f12f= 1f130>61 1f14a:68_76 1f14b:6d_76 1f14c:73_64
   1f14d:73_73 1f14e:70_70_76 1f14f:77_63 1f150= 1f16a:6d_63 1f16b:6d_64 1f16c:6d_72 1f16d=
   1f190:64_6a 1f191= 1f1ae! 1f1e6= 1f200:307b_304b 1f201:30b3_30b3 1f202:30b5 1f203!
   1f210:624b 1f211:5b57 1f212:53cc 1f213:30c7 1f214:4e8c 1f215:591a 1f216:89e3 1f217:5929
   1f218:4ea4 1f219:6620 1f21a:7121 1f21b:6599 1f21c:524d 1f21d:5f8c 1f21e:518d 1f21f:65b0
   1f220:521d 1f221:7d42 1f222:751f 1f223:8ca9 1f224:58f0 1f225:5439 1f226:6f14 1f227:6295
   1f228:6355 1f229:4e00 1f22a:4e09 1f22b:904a 1f22c:5de6 1f22d:4e2d 1f22e:53f3 1f22f:6307
   1f230:8d70 1f231:6253 1f232:7981 1f233:7a7a 1f234:5408 1f235:6e80 1f236:6709 1f237:6708
   1f238:7533 1f239:5272 1f23a:55b6 1f23b:914d 1f23c! 1f240:3014_672c_3015 1f241:3014_4e09_3015
   1f242:3014_4e8c_3015 1f243:3014_5b89_3015 1f244:3014_70b9_3015 1f245:3014_6253_3015
   1f246:3014_76d7_3015 1f247:3014_52dd_3015 1f248:3014_6557_3015 1f249! 1f250:5f97 1f251:53ef
   1f252! 1f260= 1f266! 1f300= 1f6d9! 1f6dc= 1f6ed! 1f6f0= 1f6fd! 1f700= 1f7da! 1f7e0= 1f7ec!
   1f7f0= 1f7f1! 1f800= 1f80c! 1f810= 1f848! 1f850= 1f85a! 1f860= 1f888! 1f890= 1f8ae! 1f8b0=
   1f8bc! 1f8c0= 1f8c2! 1f8d0= 1f8d9! 1f900= 1fa58! 1fa60= 1fa6e! 1fa70= 1fa7d! 1fa80= 1fa8b!
   1fa8e= 1fac7! 1fac8= 1fac9! 1facd= 1fadd! 1fadf= 1faeb! 1faef= 1faf9! 1fb00= 1fb93! 1fb94=
   1fbf0>30 1fbfa= 1fbfb! 20000= 2a6e0! 2a700= 2b81e! 2b820= 2ceae! 2ceb0= 2ebe1! 2ebf0= 2ee5e!
   2f800:4e3d 2f801:4e38 2f802:4e41 2f803:20122 2f804:4f60 2f805:4fae 2f806:4fbb 2f807:5002
   2f808:507a 2f809:5099 2f80a:50e7 2f80b:50cf 2f80c:349e 2f80d:2063a 2f80e:514d 2f80f:5154
   2f810:5164 2f811:5177 2f812:2051c 2f813:34b9 2f814:5167 2f815:518d 2f816:2054b 2f817:5197
   2f818:51a4 2f819:4ecc 2f81a:51ac 2f81b:51b5 2f81c:291df 2f81d:51f5 2f81e:5203 2f81f:34df
   2f820:523b 2f821:5246 2f822:5272 2f823:5277 2f824:3515 2f825:52c7 2f826:52c9 2f827:52e4
   2f828:52fa 2f829>5305 2f82b:5317 2f82c:5349 2f82d:5351 2f82e:535a 2f82f:5373 2f830:537d
   2f831:537f 2f834:20a2c 2f835:7070 2f836:53ca 2f837:53df 2f838:20b63 2f839:53eb 2f83a:53f1
   2f83b:5406 2f83c:549e 2f83d:5438 2f83e:5448 2f83f:5468 2f840:54a2 2f841:54f6 2f842:5510
   2f843:5553 2f844:5563 2f845:5584 2f847:5599 2f848:55ab 2f849:55b3 2f84a:55c2 2f84b:5716
   2f84c:5606 2f84d:5717 2f84e:5651 2f84f:5674 2f850:5207 2f851:58ee 2f852:57ce 2f853:57f4
   2f854:580d 2f855:578b 2f856:5832 2f857:5831 2f858:58ac 2f859:214e4 2f85a:58f2 2f85b:58f7
   2f85c:5906 2f85d:591a 2f85e:5922 2f85f:5962 2f860:216a8 2f861:216ea 2f862:59ec 2f863:5a1b
   2f864:5a27 2f865:59d8 2f866:5a66 2f867:36ee 2f868:36fc 2f869:5b08 2f86a:5b3e 2f86c:219c8
   2f86d:5bc3 2f86e:5bd8 2f86f:5be7 2f870:5bf3 2f871:21b18 2f872:5bff 2f873:5c06 2f874:5f53
   2f875:5c22 2f876:3781 2f877:5c60 2f878:5c6e 2f879:5cc0 2f87a:5c8d 2f87b:21de4 2f87c:5d43
   2f87d:21de6 2f87e:5d6e 2f87f:5d6b 2f880:5d7c 2f881>5de1 2f883:382f 2f884:5dfd 2f885:5e28
   2f886:5e3d 2f887:5e69 2f888:3862 2f889:22183 2f88a:387c 2f88b:5eb0 2f88c:5eb3 2f88d:5eb6
   2f88e:5eca 2f88f:2a392 2f890:5efe 2f891:22331 2f893:8201 2f894:5f22 2f896:38c7 2f897:232b8
   2f898:261da 2f899:5f62 2f89a:5f6b 2f89b:38e3 2f89c:5f9a 2f89d:5fcd 2f89e:5fd7 2f89f:5ff9
   2f8a0:6081 2f8a1:393a 2f8a2:391c 2f8a3:6094 2f8a4:226d4 2f8a5:60c7 2f8a6:6148 2f8a7:614c
   2f8a8:614e 2f8a9:614c 2f8aa:617a 2f8ab:618e 2f8ac:61b2 2f8ad:61a4 2f8ae:61af 2f8af:61de
   2f8b0:61f2 2f8b1:61f6 2f8b2:6210 2f8b3:621b 2f8b4:625d 2f8b5:62b1 2f8b6:62d4 2f8b7:6350
   2f8b8:22b0c 2f8b9:633d 2f8ba:62fc 2f8bb:6368 2f8bc:6383 2f8bd:63e4 2f8be:22bf1 2f8bf:6422
   2f8c0:63c5 2f8c1:63a9 2f8c2:3a2e 2f8c3:6469 2f8c4:647e 2f8c5:649d 2f8c6:6477 2f8c7:3a6c
   2f8c8:654f 2f8c9:656c 2f8ca:2300a 2f8cb:65e3 2f8cc:66f8 2f8cd:6649 2f8ce:3b19 2f8cf:6691
   2f8d0:3b08 2f8d1:3ae4 2f8d2:5192 2f8d3:5195 2f8d4:6700 2f8d5:669c 2f8d6:80ad 2f8d7:43d9
   2f8d8:6717 2f8d9:671b 2f8da:6721 2f8db:675e 2f8dc:6753 2f8dd:233c3 2f8de:3b49 2f8df:67fa
   2f8e0:6785 2f8e1:6852 2f8e2:6885 2f8e3:2346d 2f8e4:688e 2f8e5:681f 2f8e6:6914 2f8e7:3b9d
   2f8e8:6942 2f8e9:69a3 2f8ea:69ea 2f8eb:6aa8 2f8ec:236a3 2f8ed:6adb 2f8ee:3c18 2f8ef:6b21
   2f8f0:238a7 2f8f1:6b54 2f8f2:3c4e 2f8f3:6b72 2f8f4:6b9f 2f8f5>6bba 2f8f7:23a8d 2f8f8:21d0b
   2f8f9:23afa 2f8fa:6c4e 2f8fb:23cbc 2f8fc:6cbf 2f8fd:6ccd 2f8fe:6c67 2f8ff:6d16 2f900:6d3e
   2f901:6d77 2f902:6d41 2f903:6d69 2f904:6d78 2f905:6d85 2f906:23d1e 2f907:6d34 2f908:6e2f
   2f909:6e6e 2f90a:3d33 2f90b:6ecb 2f90c:6ec7 2f90d:23ed1 2f90e:6df9 2f90f:6f6e 2f910:23f5e
   2f911:23f8e 2f912:6fc6 2f913:7039 2f914:701e 2f915:701b 2f916:3d96 2f917:704a 2f918:707d
   2f919:7077 2f91a:70ad 2f91b:20525 2f91c:7145 2f91d:24263 2f91e:719c 2f91f:243ab 2f920:7228
   2f921:7235 2f922:7250 2f923:24608 2f924:7280 2f925:7295 2f926:24735 2f927:24814 2f928:737a
   2f929:738b 2f92a:3eac 2f92b:73a5 2f92c:3eb8 2f92e:7447 2f92f:745c 2f930:7471 2f931:7485
   2f932:74ca 2f933:3f1b 2f934:7524 2f935:24c36 2f936:753e 2f937:24c92 2f938:7570 2f939:2219f
   2f93a:7610 2f93b:24fa1 2f93c:24fb8 2f93d:25044 2f93e:3ffc 2f93f:4008 2f940:76f4 2f941:250f3
   2f942:250f2 2f943:25119 2f944:25133 2f945:771e 2f946:771f 2f948:774a 2f949:4039 2f94a:778b
   2f94b:4046 2f94c:4096 2f94d:2541d 2f94e:784e 2f94f:788c 2f950:78cc 2f951:40e3 2f952:25626
   2f953:7956 2f954:2569a 2f955:256c5 2f956:798f 2f957:79eb 2f958:412f 2f959:7a40 2f95a:7a4a
   2f95b:7a4f 2f95c:2597c 2f95d:25aa7 2f95f:7aee 2f960:4202 2f961:25bab 2f962:7bc6 2f963:7bc9
   2f964:4227 2f965:25c80 2f966:7cd2 2f967:42a0 2f968:7ce8 2f969:7ce3 2f96a:7d00 2f96b:25f86
   2f96c:7d63 2f96d:4301 2f96e:7dc7 2f96f:7e02 2f970:7e45 2f971:4334 2f972:26228 2f973:26247
   2f974:4359 2f975:262d9 2f976:7f7a 2f977:2633e 2f978:7f95 2f979:7ffa 2f97a:8005 2f97b:264da
   2f97c:26523 2f97d:8060 2f97e:265a8 2f97f:8070 2f980:2335f 2f981:43d5 2f982:80b2 2f983:8103
   2f984:440b 2f985:813e 2f986:5ab5 2f987:267a7 2f988:267b5 2f989:23393 2f98a:2339c 2f98b:8201
   2f98c:8204 2f98d:8f9e 2f98e:446b 2f98f:8291 2f990:828b 2f991:829d 2f992:52b3 2f993:82b1
   2f994:82b3 2f995:82bd 2f996:82e6 2f997:26b3c 2f998:82e5 2f999:831d 2f99a:8363 2f99b:83ad
   2f99c:8323 2f99d:83bd 2f99e:83e7 2f99f:8457 2f9a0:8353 2f9a1:83ca 2f9a2:83cc 2f9a3:83dc
   2f9a4:26c36 2f9a5:26d6b 2f9a6:26cd5 2f9a7:452b 2f9a8:84f1 2f9a9:84f3 2f9aa:8516 2f9ab:273ca
   2f9ac:8564 2f9ad:26f2c 2f9ae:455d 2f9af:4561 2f9b0:26fb1 2f9b1:270d2 2f9b2:456b 2f9b3:8650
   2f9b4:865c 2f9b5:8667 2f9b6:8669 2f9b7:86a9 2f9b8:8688 2f9b9:870e 2f9ba:86e2 2f9bb:8779
   2f9bc:8728 2f9bd:876b 2f9be:8786 2f9bf:45d7 2f9c0:87e1 2f9c1:8801 2f9c2:45f9 2f9c3:8860
   2f9c4:8863 2f9c5:27667 2f9c6:88d7 2f9c7:88de 2f9c8:4635 2f9c9:88fa 2f9ca:34bb 2f9cb:278ae
   2f9cc:27966 2f9cd:46be 2f9ce:46c7 2f9cf:8aa0 2f9d0:8aed 2f9d1:8b8a 2f9d2:8c55 2f9d3:27ca8
   2f9d4:8cab 2f9d5:8cc1 2f9d6:8d1b 2f9d7:8d77 2f9d8:27f2f 2f9d9:20804 2f9da:8dcb 2f9db:8dbc
   2f9dc:8df0 2f9dd:208de 2f9de:8ed4 2f9df:8f38 2f9e0:285d2 2f9e1:285ed 2f9e2:9094 2f9e3:90f1
   2f9e4:9111 2f9e5:2872e 2f9e6:911b 2f9e7:9238 2f9e8>92d7 2f9ea:927c 2f9eb:93f9 2f9ec:9415
   2f9ed:28bfa 2f9ee:958b 2f9ef:4995 2f9f0:95b7 2f9f1:28d77 2f9f2:49e6 2f9f3:96c3 2f9f4:5db2
   2f9f5:9723 2f9f6:29145 2f9f7:2921a 2f9f8:4a6e 2f9f9:4a76 2f9fa:97e0 2f9fb:2940a 2f9fc:4ab2
   2f9fd:29496 2f9fe:980b 2fa00:9829 2fa01:295b6 2fa02:98e2 2fa03:4b33 2fa04:9929 2fa05:99a7
   2fa06:99c2 2fa07:99fe 2fa08:4bce 2fa09:29b30 2fa0a:9b12 2fa0b:9c40 2fa0c:9cfd 2fa0d:4cce
   2fa0e:4ced 2fa0f:9d67 2fa10:2a0ce 2fa11:4cf8 2fa12:2a105 2fa13:2a20e 2fa14:2a291 2fa15:9ebb
   2fa16:4d56 2fa17:9ef9 2fa18:9efe 2fa19:9f05 2fa1a:9f0f 2fa1b:9f16 2fa1c:9f3b 2fa1d:2a600
   2fa1e! 30000= 3134b! 31350= 3347a! e0100- e01f0!"

end PoliteCrawl.Unicode
