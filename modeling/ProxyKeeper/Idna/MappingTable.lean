/-!
What becomes of each character of an internationalized domain name, as a written table: runs of code
points from 80 to the last, one after the other without gaps. A run is a letter and its length in
hexadecimal: `v` stay, `x` are refused, `i` vanish, `a` give way by turns to the next code point and
stay, `s` move to the code points from the one behind the colon on, `m` all become the text whose
code points follow.
-/

namespace ProxyKeeper.Idna

def mappingTable : String :=
  " ".intercalate
  ["x20 m1:20 v7 m1:20.308 v1 m1:61 v2 i1 v1 m1:20.304 v2 s2:32 m1:20.301 m1:3bc v2 m1:20.327",
   "m1:31 m1:6f v1 m1:31.2044.34 m1:31.2044.32 m1:33.2044.34 v1 s17:e0 v1 s7:f8 v21 a30",
   "m1:69.307 v1 m2:69.6a a4 v1 a6 m2:6c.b7 a8 m1:2bc.6e a2e m1:ff a6 m1:73 v1 m1:253 a4 m1:254",
   "m1:188 v1 s2:256 m1:18c v2 m1:1dd m1:259 m1:25b m1:192 v1 m1:260 m1:263 v1 m1:269 m1:268",
   "m1:199 v3 m1:26f m1:272 v1 m1:275 a6 m1:280 m1:1a8 v1 m1:283 v2 m1:1ad v1 m1:288 m1:1b0 v1",
   "s2:28a a4 m1:292 m1:1b9 v3 m1:1bd v7 m3:64.17e m3:6c.6a m3:6e.6a a10 v1 a12 v1 m3:64.7a",
   "m1:1f5 v1 m1:195 m1:1bf a28 m1:19e v1 a12 v6 m1:2c65 m1:23c v1 m1:19a m1:2c66 v2 m1:242 v1",
   "m1:180 m1:289 m1:28c aa v60 m1:68 m1:266 m1:6a m1:72 m1:279 m1:27b m1:281 m1:77 m1:79 v1f",
   "m1:20.306 m1:20.307 m1:20.30a m1:20.328 m1:20.303 m1:20.30b v2 m1:263 m1:6c m1:73 m1:78",
   "m1:295 v5b s2:300 v1 m1:313 m1:308.301 m1:3b9 v9 i1 v20 a4 m1:2b9 v1 m1:377 v1 x2 m1:20.3b9",
   "v3 m1:3b m1:3f3 x4 m1:20.301 m1:20.308.301 m1:3ac m1:b7 s3:3ad x1 m1:3cc x1 s2:3cd v1",
   "s11:3b1 x1 s9:3c3 v23 m1:3d7 m1:3b2 m1:3b8 m1:3c5 m1:3cd m1:3cb m1:3c6 m1:3c0 v1 a18 m1:3ba",
   "m1:3c1 m1:3c3 v1 m1:3b8 m1:3b5 v1 m1:3f8 v1 m1:3c3 m1:3fb v2 s3:37b s10:450 s20:430 v30 a22",
   "v8 a36 x1 ae v1 a60 x1 s26:561 x2 v2e m1:565.582 v3 x2 v3 x1 v37 x8 v1b x4 v6 x11 v16 x1 v58",
   "m1:627.674 m1:648.674 m1:6c7.674 m1:64a.674 v64 x1 v30 x2 v3b x2 v65 xe v3b x2 v31 x2 vf x1",
   "v1c x2 v1 x1 vb x5 v1f x9 v4a x1 v75 m1:915.93c m1:916.93c m1:917.93c m1:91c.93c m1:921.93c",
   "m1:922.93c m1:92b.93c m1:92f.93c v24 x1 v8 x2 v2 x2 v16 x1 v7 x1 v1 x3 v4 x2 v9 x2 v2 x2 v4",
   "x8 v1 x4 m1:9a1.9bc m1:9a2.9bc x1 m1:9af.9bc v4 x2 v19 x2 v3 x1 v6 x4 v2 x2 v16 x1 v7 x1 v1",
   "m1:a32.a3c x1 v1 m1:a38.a3c x1 v2 x2 v1 x1 v5 x4 v2 x2 v3 x3 v1 x7 m1:a16.a3c m1:a17.a3c",
   "m1:a1c.a3c v1 x1 m1:a2b.a3c x7 v11 xa v3 x1 v9 x1 v3 x1 v16 x1 v7 x1 v2 x1 v5 x2 va x1 v3 x1",
   "v3 x2 v1 xf v4 x2 vc x7 v7 x1 v3 x1 v8 x2 v2 x2 v16 x1 v7 x1 v2 x1 v5 x2 v9 x2 v2 x2 v3 x7",
   "v3 x4 m1:b21.b3c m1:b22.b3c x1 v5 x2 v12 xa v2 x1 v6 x3 v3 x1 v4 x3 v2 x1 v1 x1 v2 x3 v2 x3",
   "v3 x3 vc x4 v5 x3 v3 x1 v4 x2 v1 x6 v1 xe v15 x5 vd x1 v3 x1 v17 x1 v10 x2 v9 x1 v3 x1 v4 x7",
   "v2 x1 v3 x2 v1 x2 v4 x2 va x7 v16 x1 v3 x1 v17 x1 va x1 v5 x2 v9 x1 v3 x1 v4 x7 v2 x6 v2 x1",
   "v4 x2 va x1 v3 xc vd x1 v3 x1 v33 x1 v3 x1 v6 x4 v10 x2 v1a x1 v3 x1 v12 x3 v18 x1 v9 x1 v1",
   "x2 v7 x3 v1 x4 v6 x1 v1 x1 v8 x6 va x2 v3 xc v32 m1:e4d.e32 v7 x4 v1d x25 v2 x1 v1 x1 v5 x1",
   "v18 x1 v1 x1 vc m1:ecd.eb2 va x2 v5 x1 v1 x1 v7 x1 va x2 m1:eab.e99 m1:eab.ea1 v2 x20 vc",
   "m1:f0b v36 m1:f42.fb7 v4 x1 v4 m1:f4c.fb7 v4 m1:f51.fb7 v4 m1:f56.fb7 v4 m1:f5b.fb7 vc",
   "m1:f40.fb5 v3 x4 v2 m1:f71.f72 v1 m1:f71.f74 m1:fb2.f80 m1:fb2.f71.f80 m1:fb3.f80",
   "m1:fb3.f71.f80 v7 m1:f71.f80 v11 m1:f92.fb7 v4 x1 v4 m1:f9c.fb7 v4 m1:fa1.fb7 v4 m1:fa6.fb7",
   "v4 m1:fab.fb7 vc m1:f90.fb5 v3 x1 vf x1 vd x25 va0 x27 m1:2d27 x5 m1:2d2d x2 v2c m1:10dc v62",
   "x2 ve8 x1 v4 x2 v7 x1 v1 x1 v4 x2 v29 x1 v4 x2 v21 x1 v4 x2 v7 x1 v1 x1 v4 x2 vf x1 v39 x1",
   "v4 x2 v43 x2 v20 x3 v1a x6 v56 x2 s6:13f0 x2 v280 x1 v1c x3 v59 x7 v16 x9 v18 x9 v14 xc vd",
   "x1 v3 x1 v2 xc v34 x2 v28 x2 va x6 va x6 v6 x1 v4 i3 x1 i1 va x6 v59 x7 v2b x5 v46 xa v1f x1",
   "vc x4 vc x4 v1 x3 v2a x2 v5 xb v2c x4 v1a x6 vb x3 v3e x2 v41 x1 v1d x2 vb x6 va x6 ve x2",
   "v1f x31 v4d x3 v2f x1 v74 x8 v3c x3 vf x3 v33 m1:432 m1:434 m1:43e s2:441 m1:442 m1:44a",
   "m1:463 m1:a64b x7 s2b:10d0 x2 s3:10fd v8 x8 v2b x5 v2c m1:61 m1:e6 m1:62 v1 s2:64 m1:1dd",
   "s8:67 v1 m1:6f m1:223 m1:70 m1:72 s2:74 m1:77 m1:61 s2:250 m1:1d02 m1:62 s2:64 m1:259 s2:25b",
   "m1:67 v1 m1:6b m1:6d m1:14b m1:6f m1:254 s2:1d16 m1:70 s2:74 m1:1d1d m1:26f m1:76 m1:1d25",
   "s3:3b2 s2:3c6 m1:69 m1:72 s2:75 s2:3b2 m1:3c1 s2:3c6 vd m1:43d v22 m1:252 m1:63 m1:255 m1:f0",
   "m1:25c m1:66 m1:25f m1:261 m1:265 s3:268 m1:1d7b m1:29d m1:26d m1:1d85 m1:29f m1:271 m1:270",
   "s4:272 m1:278 s2:282 m1:1ab s2:289 m1:1d1c s2:28b m1:7a s3:290 m1:3b8 v40 a96 v4 m1:61.2be",
   "m1:1e61 v2 m1:df v1 a60 v8 s8:1f00 v6 x2 s6:1f10 x2 v8 s8:1f20 v8 s8:1f30 v6 x2 s6:1f40 x2",
   "v8 x1 m1:1f51 x1 m1:1f53 x1 m1:1f55 x1 m1:1f57 v8 s8:1f60 v1 m1:3ac v1 m1:3ad v1 m1:3ae v1",
   "m1:3af v1 m1:3cc v1 m1:3cd v1 m1:3ce x2 m1:1f00.3b9 m1:1f01.3b9 m1:1f02.3b9 m1:1f03.3b9",
   "m1:1f04.3b9 m1:1f05.3b9 m1:1f06.3b9 m1:1f07.3b9 m1:1f00.3b9 m1:1f01.3b9 m1:1f02.3b9",
   "m1:1f03.3b9 m1:1f04.3b9 m1:1f05.3b9 m1:1f06.3b9 m1:1f07.3b9 m1:1f20.3b9 m1:1f21.3b9",
   "m1:1f22.3b9 m1:1f23.3b9 m1:1f24.3b9 m1:1f25.3b9 m1:1f26.3b9 m1:1f27.3b9 m1:1f20.3b9",
   "m1:1f21.3b9 m1:1f22.3b9 m1:1f23.3b9 m1:1f24.3b9 m1:1f25.3b9 m1:1f26.3b9 m1:1f27.3b9",
   "m1:1f60.3b9 m1:1f61.3b9 m1:1f62.3b9 m1:1f63.3b9 m1:1f64.3b9 m1:1f65.3b9 m1:1f66.3b9",
   "m1:1f67.3b9 m1:1f60.3b9 m1:1f61.3b9 m1:1f62.3b9 m1:1f63.3b9 m1:1f64.3b9 m1:1f65.3b9",
   "m1:1f66.3b9 m1:1f67.3b9 v2 m1:1f70.3b9 m1:3b1.3b9 m1:3ac.3b9 x1 v1 m1:1fb6.3b9 s2:1fb0",
   "m1:1f70 m1:3ac m1:3b1.3b9 m1:20.313 m1:3b9 m1:20.313 m1:20.342 m1:20.308.342 m1:1f74.3b9",
   "m1:3b7.3b9 m1:3ae.3b9 x1 v1 m1:1fc6.3b9 m1:1f72 m1:3ad m1:1f74 m1:3ae m1:3b7.3b9",
   "m1:20.313.300 m1:20.313.301 m1:20.313.342 v3 m1:390 x2 v2 s2:1fd0 m1:1f76 m1:3af x1",
   "m1:20.314.300 m1:20.314.301 m1:20.314.342 v3 m1:3b0 v4 s2:1fe0 m1:1f7a m1:3cd m1:1fe5",
   "m1:20.308.300 m1:20.308.301 m1:60 x2 m1:1f7c.3b9 m1:3c9.3b9 m1:3ce.3b9 x1 v1 m1:1ff6.3b9",
   "m1:1f78 m1:3cc m1:1f7c m1:3ce m1:3c9.3b9 m1:20.301 m1:20.314 x1 m1:20 m1:20 m1:20 m1:20",
   "m1:20 m1:20 m1:20 m1:20 m1:20 m1:20 m1:20 i1 v2 x2 v1 m1:2010 v5 m1:20.333 vc x3 v1 x7 m1:20",
   "v3 m1:2032.2032 m1:2032.2032.2032 v1 m1:2035.2035 m1:2035.2035.2035 v4 m1:21.21 v1 m1:20.305",
   "v8 m1:3f.3f m1:3f.21 m1:21.3f vd m1:2032.2032.2032.2032 v7 m1:20 i1 x3 i1 xb m1:30 m1:69 x2",
   "s6:34 m1:2b m1:2212 m1:3d s2:28 m1:6e sa:30 m1:2b m1:2212 m1:3d s2:28 x1 m1:61 m1:65 m1:6f",
   "m1:78 m1:259 m1:68 s4:6b m1:70 s2:73 x3 v8 m1:72.73 v18 xf v21 xf m1:61.2f.63 m1:61.2f.73",
   "m1:63 m1:b0.63 v1 m1:63.2f.6f m1:63.2f.75 m1:25b v1 m1:b0.66 s2:67 m1:68 m1:68 m1:68 m1:127",
   "m1:69 m1:69 m1:6c m1:6c v1 m1:6e m1:6e.6f v2 s3:70 m1:72 m1:72 v2 m1:73.6d m1:74.65.6c",
   "m1:74.6d v1 m1:7a v1 m1:3c9 v1 m1:7a v1 m1:6b m1:e5 s2:62 v1 m1:65 s2:65 x1 m1:6d m1:6f",
   "s4:5d0 m1:69 v1 m1:66.61.78 m1:3c0 m1:3b3 m1:3b3 m1:3c0 m1:2211 v4 m1:64 s2:64 s2:69 v6",
   "m1:31.2044.37 m1:31.2044.39 m1:31.2044.31.30 m1:31.2044.33 m1:32.2044.33 m1:31.2044.35",
   "m1:32.2044.35 m1:33.2044.35 m1:34.2044.35 m1:31.2044.36 m1:35.2044.36 m1:31.2044.38",
   "m1:33.2044.38 m1:35.2044.38 m1:37.2044.38 m1:31.2044 m1:69 m1:69.69 m1:69.69.69 m1:69.76",
   "m1:76 m1:76.69 m1:76.69.69 m1:76.69.69.69 m1:69.78 m1:78 m1:78.69 m1:78.69.69 m1:6c s2:63",
   "m1:6d m1:69 m1:69.69 m1:69.69.69 m1:69.76 m1:76 m1:76.69 m1:76.69.69 m1:76.69.69.69 m1:69.78",
   "m1:78 m1:78.69 m1:78.69.69 m1:6c s2:63 m1:6d v3 x1 v5 m1:30.2044.33 v2 x4 v9c m1:222b.222b",
   "m1:222b.222b.222b v1 m1:222e.222e m1:222e.222e.222e vf8 s2:3008 vfc x19 vb x15 s9:31",
   "m1:31.30 m1:31.31 m1:31.32 m1:31.33 m1:31.34 m1:31.35 m1:31.36 m1:31.37 m1:31.38 m1:31.39",
   "m1:32.30 m1:28.31.29 m1:28.32.29 m1:28.33.29 m1:28.34.29 m1:28.35.29 m1:28.36.29 m1:28.37.29",
   "m1:28.38.29 m1:28.39.29 m1:28.31.30.29 m1:28.31.31.29 m1:28.31.32.29 m1:28.31.33.29",
   "m1:28.31.34.29 m1:28.31.35.29 m1:28.31.36.29 m1:28.31.37.29 m1:28.31.38.29 m1:28.31.39.29",
   "m1:28.32.30.29 x14 m1:28.61.29 m1:28.62.29 m1:28.63.29 m1:28.64.29 m1:28.65.29 m1:28.66.29",
   "m1:28.67.29 m1:28.68.29 m1:28.69.29 m1:28.6a.29 m1:28.6b.29 m1:28.6c.29 m1:28.6d.29",
   "m1:28.6e.29 m1:28.6f.29 m1:28.70.29 m1:28.71.29 m1:28.72.29 m1:28.73.29 m1:28.74.29",
   "m1:28.75.29 m1:28.76.29 m1:28.77.29 m1:28.78.29 m1:28.79.29 m1:28.7a.29 s1a:61 s1a:61 m1:30",
   "v521 m1:222b.222b.222b.222b v67 m1:3a.3a.3d m1:3d.3d m1:3d.3d.3d v65 m1:2add.338 v97 x2 v20",
   "x1 v69 s30:2c30 v30 m1:2c61 v1 m1:26b m1:1d7d m1:27d v2 a6 m1:251 m1:271 m1:250 m1:252 v1",
   "m1:2c73 v2 m1:2c76 v6 m1:6a m1:76 s2:23f a64 v7 a4 v3 m1:2cf3 v1 x5 v2d x1 v1 x5 v1 x2 v38",
   "x7 m1:2d61 v1 xe v18 x9 v7 x1 v7 x1 v7 x1 v7 x1 v7 x1 v7 x1 v7 x1 v7 x1 v7e x22 v1a x1 v4",
   "m1:6bcd v53 m1:9f9f xc m1:4e00 m1:4e28 m1:4e36 m1:4e3f m1:4e59 m1:4e85 m1:4e8c m1:4ea0",
   "m1:4eba m1:513f m1:5165 m1:516b m1:5182 m1:5196 m1:51ab m1:51e0 m1:51f5 m1:5200 m1:529b",
   "m1:52f9 m1:5315 m1:531a m1:5338 m1:5341 m1:535c m1:5369 m1:5382 m1:53b6 m1:53c8 m1:53e3",
   "m1:56d7 m1:571f m1:58eb m1:5902 m1:590a m1:5915 m1:5927 m1:5973 m1:5b50 m1:5b80 m1:5bf8",
   "m1:5c0f m1:5c22 m1:5c38 m1:5c6e m1:5c71 m1:5ddb m1:5de5 m1:5df1 m1:5dfe m1:5e72 m1:5e7a",
   "m1:5e7f m1:5ef4 m1:5efe m1:5f0b m1:5f13 m1:5f50 m1:5f61 m1:5f73 m1:5fc3 m1:6208 m1:6236",
   "m1:624b m1:652f m1:6534 m1:6587 m1:6597 m1:65a4 m1:65b9 m1:65e0 m1:65e5 m1:66f0 m1:6708",
   "m1:6728 m1:6b20 m1:6b62 m1:6b79 m1:6bb3 m1:6bcb m1:6bd4 m1:6bdb m1:6c0f m1:6c14 m1:6c34",
   "m1:706b m1:722a m1:7236 m1:723b m1:723f m1:7247 m1:7259 m1:725b m1:72ac m1:7384 m1:7389",
   "m1:74dc m1:74e6 m1:7518 m1:751f m1:7528 m1:7530 m1:758b m1:7592 m1:7676 m1:767d m1:76ae",
   "m1:76bf m1:76ee m1:77db m1:77e2 m1:77f3 m1:793a m1:79b8 m1:79be m1:7a74 m1:7acb m1:7af9",
   "m1:7c73 m1:7cf8 m1:7f36 m1:7f51 m1:7f8a m1:7fbd m1:8001 m1:800c m1:8012 m1:8033 m1:807f",
   "m1:8089 m1:81e3 m1:81ea m1:81f3 m1:81fc m1:820c m1:821b m1:821f m1:826e m1:8272 m1:8278",
   "m1:864d m1:866b m1:8840 m1:884c m1:8863 m1:897e m1:898b m1:89d2 m1:8a00 m1:8c37 m1:8c46",
   "m1:8c55 m1:8c78 m1:8c9d m1:8d64 m1:8d70 m1:8db3 m1:8eab m1:8eca m1:8f9b m1:8fb0 m1:8fb5",
   "m1:9091 m1:9149 m1:91c6 m1:91cc m1:91d1 m1:9577 m1:9580 m1:961c m1:96b6 m1:96b9 m1:96e8",
   "m1:9751 m1:975e m1:9762 m1:9769 m1:97cb m1:97ed m1:97f3 m1:9801 m1:98a8 m1:98db m1:98df",
   "m1:9996 m1:9999 m1:99ac m1:9aa8 m1:9ad8 m1:9adf m1:9b25 m1:9b2f m1:9b32 m1:9b3c m1:9b5a",
   "m1:9ce5 m1:9e75 m1:9e7f m1:9ea5 m1:9ebb m1:9ec3 m1:9ecd m1:9ed1 m1:9ef9 m1:9efd m1:9f0e",
   "m1:9f13 m1:9f20 m1:9f3b m1:9f4a m1:9f52 m1:9f8d m1:9f9c m1:9fa0 x2a m1:20 v1 m1:2e v33",
   "m1:3012 v1 m1:5341 s2:5344 v5 x1 v56 x2 v2 m1:20.3099 m1:20.309a v2 m1:3088.308a v5f",
   "m1:30b3.30c8 x5 v2b x1 s2:1100 m1:11aa m1:1102 s2:11ac s3:1103 s6:11b0 m1:111a s3:1106",
   "m1:1121 sa:1109 s15:1161 x1 s2:1114 s2:11c7 m1:11cc m1:11ce m1:11d3 m1:11d7 m1:11d9 m1:111c",
   "m1:11dd m1:11df s2:111d m1:1120 s2:1122 m1:1127 m1:1129 s5:112b m1:1132 m1:1136 m1:1140",
   "m1:1147 m1:114c s2:11f1 s3:1157 s2:1184 m1:1188 s2:1191 m1:1194 m1:119e m1:11a1 x1 v2",
   "m1:4e00 m1:4e8c m1:4e09 m1:56db m1:4e0a m1:4e2d m1:4e0b m1:7532 m1:4e59 m1:4e19 m1:4e01",
   "m1:5929 m1:5730 m1:4eba v44 xc v10 m1:28.1100.29 m1:28.1102.29 m1:28.1103.29 m1:28.1105.29",
   "m1:28.1106.29 m1:28.1107.29 m1:28.1109.29 m1:28.110b.29 m1:28.110c.29 m1:28.110e.29",
   "m1:28.110f.29 m1:28.1110.29 m1:28.1111.29 m1:28.1112.29 m1:28.ac00.29 m1:28.b098.29",
   "m1:28.b2e4.29 m1:28.b77c.29 m1:28.b9c8.29 m1:28.bc14.29 m1:28.c0ac.29 m1:28.c544.29",
   "m1:28.c790.29 m1:28.cc28.29 m1:28.ce74.29 m1:28.d0c0.29 m1:28.d30c.29 m1:28.d558.29",
   "m1:28.c8fc.29 m1:28.c624.c804.29 m1:28.c624.d6c4.29 x1 m1:28.4e00.29 m1:28.4e8c.29",
   "m1:28.4e09.29 m1:28.56db.29 m1:28.4e94.29 m1:28.516d.29 m1:28.4e03.29 m1:28.516b.29",
   "m1:28.4e5d.29 m1:28.5341.29 m1:28.6708.29 m1:28.706b.29 m1:28.6c34.29 m1:28.6728.29",
   "m1:28.91d1.29 m1:28.571f.29 m1:28.65e5.29 m1:28.682a.29 m1:28.6709.29 m1:28.793e.29",
   "m1:28.540d.29 m1:28.7279.29 m1:28.8ca1.29 m1:28.795d.29 m1:28.52b4.29 m1:28.4ee3.29",
   "m1:28.547c.29 m1:28.5b66.29 m1:28.76e3.29 m1:28.4f01.29 m1:28.8cc7.29 m1:28.5354.29",
   "m1:28.796d.29 m1:28.4f11.29 m1:28.81ea.29 m1:28.81f3.29 m1:554f m1:5e7c m1:6587 m1:7b8f v8",
   "m1:70.74.65 m1:32.31 m1:32.32 m1:32.33 m1:32.34 m1:32.35 m1:32.36 m1:32.37 m1:32.38 m1:32.39",
   "m1:33.30 m1:33.31 m1:33.32 m1:33.33 m1:33.34 m1:33.35 m1:1100 s2:1102 s3:1105 m1:1109",
   "s2:110b s5:110e m1:ac00 m1:b098 m1:b2e4 m1:b77c m1:b9c8 m1:bc14 m1:c0ac m1:c544 m1:c790",
   "m1:cc28 m1:ce74 m1:d0c0 m1:d30c m1:d558 m1:cc38.ace0 m1:c8fc.c758 m1:c6b0 v1 m1:4e00 m1:4e8c",
   "m1:4e09 m1:56db m1:4e94 m1:516d m1:4e03 m1:516b m1:4e5d m1:5341 m1:6708 m1:706b m1:6c34",
   "m1:6728 m1:91d1 m1:571f m1:65e5 m1:682a m1:6709 m1:793e m1:540d m1:7279 m1:8ca1 m1:795d",
   "m1:52b4 m1:79d8 m1:7537 m1:5973 m1:9069 m1:512a m1:5370 m1:6ce8 m1:9805 m1:4f11 m1:5199",
   "m1:6b63 m1:4e0a m1:4e2d m1:4e0b m1:5de6 m1:53f3 m1:533b m1:5b97 m1:5b66 m1:76e3 m1:4f01",
   "m1:8cc7 m1:5354 m1:591c m1:33.36 m1:33.37 m1:33.38 m1:33.39 m1:34.30 m1:34.31 m1:34.32",
   "m1:34.33 m1:34.34 m1:34.35 m1:34.36 m1:34.37 m1:34.38 m1:34.39 m1:35.30 m1:31.6708",
   "m1:32.6708 m1:33.6708 m1:34.6708 m1:35.6708 m1:36.6708 m1:37.6708 m1:38.6708 m1:39.6708",
   "m1:31.30.6708 m1:31.31.6708 m1:31.32.6708 m1:68.67 m1:65.72.67 m1:65.76 m1:6c.74.64 m1:30a2",
   "m1:30a4 m1:30a6 m1:30a8 s2:30aa m1:30ad m1:30af m1:30b1 m1:30b3 m1:30b5 m1:30b7 m1:30b9",
   "m1:30bb m1:30bd m1:30bf m1:30c1 m1:30c4 m1:30c6 m1:30c8 s6:30ca m1:30d2 m1:30d5 m1:30d8",
   "m1:30db s5:30de m1:30e4 m1:30e6 s6:30e8 s4:30ef m1:4ee4.548c m1:30a2.30d1.30fc.30c8",
   "m1:30a2.30eb.30d5.30a1 m1:30a2.30f3.30da.30a2 m1:30a2.30fc.30eb m1:30a4.30cb.30f3.30b0",
   "m1:30a4.30f3.30c1 m1:30a6.30a9.30f3 m1:30a8.30b9.30af.30fc.30c9 m1:30a8.30fc.30ab.30fc",
   "m1:30aa.30f3.30b9 m1:30aa.30fc.30e0 m1:30ab.30a4.30ea m1:30ab.30e9.30c3.30c8",
   "m1:30ab.30ed.30ea.30fc m1:30ac.30ed.30f3 m1:30ac.30f3.30de m1:30ae.30ac m1:30ae.30cb.30fc",
   "m1:30ad.30e5.30ea.30fc m1:30ae.30eb.30c0.30fc m1:30ad.30ed m1:30ad.30ed.30b0.30e9.30e0",
   "m1:30ad.30ed.30e1.30fc.30c8.30eb m1:30ad.30ed.30ef.30c3.30c8 m1:30b0.30e9.30e0",
   "m1:30b0.30e9.30e0.30c8.30f3 m1:30af.30eb.30bc.30a4.30ed m1:30af.30ed.30fc.30cd",
   "m1:30b1.30fc.30b9 m1:30b3.30eb.30ca m1:30b3.30fc.30dd m1:30b5.30a4.30af.30eb",
   "m1:30b5.30f3.30c1.30fc.30e0 m1:30b7.30ea.30f3.30b0 m1:30bb.30f3.30c1 m1:30bb.30f3.30c8",
   "m1:30c0.30fc.30b9 m1:30c7.30b7 m1:30c9.30eb m1:30c8.30f3 m1:30ca.30ce m1:30ce.30c3.30c8",
   "m1:30cf.30a4.30c4 m1:30d1.30fc.30bb.30f3.30c8 m1:30d1.30fc.30c4 m1:30d0.30fc.30ec.30eb",
   "m1:30d4.30a2.30b9.30c8.30eb m1:30d4.30af.30eb m1:30d4.30b3 m1:30d3.30eb",
   "m1:30d5.30a1.30e9.30c3.30c9 m1:30d5.30a3.30fc.30c8 m1:30d6.30c3.30b7.30a7.30eb",
   "m1:30d5.30e9.30f3 m1:30d8.30af.30bf.30fc.30eb m1:30da.30bd m1:30da.30cb.30d2",
   "m1:30d8.30eb.30c4 m1:30da.30f3.30b9 m1:30da.30fc.30b8 m1:30d9.30fc.30bf",
   "m1:30dd.30a4.30f3.30c8 m1:30dc.30eb.30c8 m1:30db.30f3 m1:30dd.30f3.30c9 m1:30db.30fc.30eb",
   "m1:30db.30fc.30f3 m1:30de.30a4.30af.30ed m1:30de.30a4.30eb m1:30de.30c3.30cf",
   "m1:30de.30eb.30af m1:30de.30f3.30b7.30e7.30f3 m1:30df.30af.30ed.30f3 m1:30df.30ea",
   "m1:30df.30ea.30d0.30fc.30eb m1:30e1.30ac m1:30e1.30ac.30c8.30f3 m1:30e1.30fc.30c8.30eb",
   "m1:30e4.30fc.30c9 m1:30e4.30fc.30eb m1:30e6.30a2.30f3 m1:30ea.30c3.30c8.30eb m1:30ea.30e9",
   "m1:30eb.30d4.30fc m1:30eb.30fc.30d6.30eb m1:30ec.30e0 m1:30ec.30f3.30c8.30b2.30f3",
   "m1:30ef.30c3.30c8 m1:30.70b9 m1:31.70b9 m1:32.70b9 m1:33.70b9 m1:34.70b9 m1:35.70b9",
   "m1:36.70b9 m1:37.70b9 m1:38.70b9 m1:39.70b9 m1:31.30.70b9 m1:31.31.70b9 m1:31.32.70b9",
   "m1:31.33.70b9 m1:31.34.70b9 m1:31.35.70b9 m1:31.36.70b9 m1:31.37.70b9 m1:31.38.70b9",
   "m1:31.39.70b9 m1:32.30.70b9 m1:32.31.70b9 m1:32.32.70b9 m1:32.33.70b9 m1:32.34.70b9",
   "m1:68.70.61 m1:64.61 m1:61.75 m1:62.61.72 m1:6f.76 m1:70.63 m1:64.6d m1:64.6d.32 m1:64.6d.33",
   "m1:69.75 m1:5e73.6210 m1:662d.548c m1:5927.6b63 m1:660e.6cbb m1:682a.5f0f.4f1a.793e m1:70.61",
   "m1:6e.61 m1:3bc.61 m1:6d.61 m1:6b.61 m1:6b.62 m1:6d.62 m1:67.62 m1:63.61.6c m1:6b.63.61.6c",
   "m1:70.66 m1:6e.66 m1:3bc.66 m1:3bc.67 m1:6d.67 m1:6b.67 m1:68.7a m1:6b.68.7a m1:6d.68.7a",
   "m1:67.68.7a m1:74.68.7a m1:3bc.6c m1:6d.6c m1:64.6c m1:6b.6c m1:66.6d m1:6e.6d m1:3bc.6d",
   "m1:6d.6d m1:63.6d m1:6b.6d m1:6d.6d.32 m1:63.6d.32 m1:6d.32 m1:6b.6d.32 m1:6d.6d.33",
   "m1:63.6d.33 m1:6d.33 m1:6b.6d.33 m1:6d.2215.73 m1:6d.2215.73.32 m1:70.61 m1:6b.70.61",
   "m1:6d.70.61 m1:67.70.61 m1:72.61.64 m1:72.61.64.2215.73 m1:72.61.64.2215.73.32 m1:70.73",
   "m1:6e.73 m1:3bc.73 m1:6d.73 m1:70.76 m1:6e.76 m1:3bc.76 m1:6d.76 m1:6b.76 m1:6d.76 m1:70.77",
   "m1:6e.77 m1:3bc.77 m1:6d.77 m1:6b.77 m1:6d.77 m1:6b.3c9 m1:6d.3c9 x1 m1:62.71 m1:63.63",
   "m1:63.64 m1:63.2215.6b.67 x1 m1:64.62 m1:67.79 m1:68.61 m1:68.70 m1:69.6e m1:6b.6b m1:6b.6d",
   "m1:6b.74 m1:6c.6d m1:6c.6e m1:6c.6f.67 m1:6c.78 m1:6d.62 m1:6d.69.6c m1:6d.6f.6c m1:70.68 x1",
   "m1:70.70.6d m1:70.72 m1:73.72 m1:73.76 m1:77.62 m1:76.2215.6d m1:61.2215.6d m1:31.65e5",
   "m1:32.65e5 m1:33.65e5 m1:34.65e5 m1:35.65e5 m1:36.65e5 m1:37.65e5 m1:38.65e5 m1:39.65e5",
   "m1:31.30.65e5 m1:31.31.65e5 m1:31.32.65e5 m1:31.33.65e5 m1:31.34.65e5 m1:31.35.65e5",
   "m1:31.36.65e5 m1:31.37.65e5 m1:31.38.65e5 m1:31.39.65e5 m1:32.30.65e5 m1:32.31.65e5",
   "m1:32.32.65e5 m1:32.33.65e5 m1:32.34.65e5 m1:32.35.65e5 m1:32.36.65e5 m1:32.37.65e5",
   "m1:32.38.65e5 m1:32.39.65e5 m1:33.30.65e5 m1:33.31.65e5 m1:67.61.6c v708d x3 v37 x9 v15c x14",
   "a2e v12 a1c m1:44a m1:44c v5a x8 v22 ae v2 a3e m1:a76f v8 a4 m1:1d79 aa v3 m1:a78c v1 m1:265",
   "v2 a4 v2 a14 m1:266 m1:25c m1:261 m1:26c m1:26a v1 m1:29e m1:287 m1:29d m1:ab53 a10 m1:a794",
   "m1:282 m1:1d8e a4 x5 m1:a7d1 v1 x1 v1 x1 v1 a4 x18 m1:63 m1:66 m1:71 m1:a7f6 v2 m1:127",
   "m1:153 v33 x3 va x6 v38 x8 v46 x8 vc x6 v74 xb v1e x3 v4e x1 vb x4 v21 x1 v37 x9 ve x2 va x2",
   "v67 x18 v1c xa v6 x2 v6 x2 v6 x9 v7 x1 v7 x1 v2c m1:a727 m1:ab37 m1:26b m1:ab52 v9 m1:28d v2",
   "x4 s50:13a0 v2e x2 va x6 v2ba4 xc v17 x4 v31 x2104 m1:8c48 m1:66f4 m1:8eca m1:8cc8 m1:6ed1",
   "m1:4e32 m1:53e5 m1:9f9c m1:9f9c m1:5951 m1:91d1 m1:5587 m1:5948 m1:61f6 m1:7669 m1:7f85",
   "m1:863f m1:87ba m1:88f8 m1:908f m1:6a02 m1:6d1b m1:70d9 m1:73de m1:843d m1:916a m1:99f1",
   "m1:4e82 m1:5375 m1:6b04 m1:721b m1:862d m1:9e1e m1:5d50 m1:6feb m1:85cd m1:8964 m1:62c9",
   "m1:81d8 m1:881f m1:5eca m1:6717 m1:6d6a m1:72fc m1:90ce m1:4f86 m1:51b7 m1:52de m1:64c4",
   "m1:6ad3 m1:7210 m1:76e7 m1:8001 m1:8606 m1:865c m1:8def m1:9732 m1:9b6f m1:9dfa m1:788c",
   "m1:797f m1:7da0 m1:83c9 m1:9304 m1:9e7f m1:8ad6 m1:58df m1:5f04 m1:7c60 m1:807e m1:7262",
   "m1:78ca m1:8cc2 m1:96f7 m1:58d8 m1:5c62 m1:6a13 m1:6dda m1:6f0f m1:7d2f m1:7e37 m1:964b",
   "m1:52d2 m1:808b m1:51dc m1:51cc m1:7a1c m1:7dbe m1:83f1 m1:9675 m1:8b80 m1:62cf m1:6a02",
   "m1:8afe m1:4e39 m1:5be7 m1:6012 m1:7387 m1:7570 m1:5317 m1:78fb m1:4fbf m1:5fa9 m1:4e0d",
   "m1:6ccc m1:6578 m1:7d22 m1:53c3 m1:585e m1:7701 m1:8449 m1:8aaa m1:6bba m1:8fb0 m1:6c88",
   "m1:62fe m1:82e5 m1:63a0 m1:7565 m1:4eae m1:5169 m1:51c9 m1:6881 m1:7ce7 m1:826f m1:8ad2",
   "m1:91cf m1:52f5 m1:5442 m1:5973 m1:5eec m1:65c5 m1:6ffe m1:792a m1:95ad m1:9a6a m1:9e97",
   "m1:9ece m1:529b m1:66c6 m1:6b77 m1:8f62 m1:5e74 m1:6190 m1:6200 m1:649a m1:6f23 m1:7149",
   "m1:7489 m1:79ca m1:7df4 m1:806f m1:8f26 m1:84ee m1:9023 m1:934a m1:5217 m1:52a3 m1:54bd",
   "m1:70c8 m1:88c2 m1:8aaa m1:5ec9 m1:5ff5 m1:637b m1:6bae m1:7c3e m1:7375 m1:4ee4 m1:56f9",
   "m1:5be7 m1:5dba m1:601c m1:73b2 m1:7469 m1:7f9a m1:8046 m1:9234 m1:96f6 m1:9748 m1:9818",
   "m1:4f8b m1:79ae m1:91b4 m1:96b8 m1:60e1 m1:4e86 m1:50da m1:5bee m1:5c3f m1:6599 m1:6a02",
   "m1:71ce m1:7642 m1:84fc m1:907c m1:9f8d m1:6688 m1:962e m1:5289 m1:677b m1:67f3 m1:6d41",
   "m1:6e9c m1:7409 m1:7559 m1:786b m1:7d10 m1:985e m1:516d m1:622e m1:9678 m1:502b m1:5d19",
   "m1:6dea m1:8f2a m1:5f8b m1:6144 m1:6817 m1:7387 m1:9686 m1:5229 m1:540f m1:5c65 m1:6613",
   "m1:674e m1:68a8 m1:6ce5 m1:7406 m1:75e2 m1:7f79 m1:88cf m1:88e1 m1:91cc m1:96e2 m1:533f",
   "m1:6eba m1:541d m1:71d0 m1:7498 m1:85fa m1:96a3 m1:9c57 m1:9e9f m1:6797 m1:6dcb m1:81e8",
   "m1:7acb m1:7b20 m1:7c92 m1:72c0 m1:7099 m1:8b58 m1:4ec0 m1:8336 m1:523a m1:5207 m1:5ea6",
   "m1:62d3 m1:7cd6 m1:5b85 m1:6d1e m1:66b4 m1:8f3b m1:884c m1:964d m1:898b m1:5ed3 m1:5140",
   "m1:55c0 v2 m1:585a v1 m1:6674 v2 m1:51de m1:732a m1:76ca m1:793c m1:795e m1:7965 m1:798f",
   "m1:9756 m1:7cbe m1:7fbd v1 m1:8612 v1 m1:8af8 v2 m1:9038 m1:90fd v3 m1:98ef m1:98fc m1:9928",
   "m1:9db4 m1:90de m1:96b7 m1:4fae m1:50e7 m1:514d m1:52c9 m1:52e4 m1:5351 m1:559d m1:5606",
   "m1:5668 m1:5840 m1:58a8 m1:5c64 m1:5c6e m1:6094 m1:6168 m1:618e m1:61f2 m1:654f m1:65e2",
   "m1:6691 m1:6885 m1:6d77 m1:6e1a m1:6f22 m1:716e m1:722b m1:7422 m1:7891 m1:793e m1:7949",
   "m1:7948 m1:7950 m1:7956 m1:795d s2:798d m1:7a40 m1:7a81 m1:7bc0 m1:7df4 m1:7e09 m1:7e41",
   "m1:7f72 m1:8005 m1:81ed m1:8279 m1:8279 m1:8457 m1:8910 m1:8996 m1:8b01 m1:8b39 m1:8cd3",
   "m1:8d08 m1:8fb6 m1:9038 m1:96e3 m1:97ff m1:983b m1:6075 m1:242ee m1:8218 x2 m1:4e26 m1:51b5",
   "m1:5168 m1:4f80 m1:5145 m1:5180 m1:52c7 m1:52fa m1:559d m1:5555 m1:5599 m1:55e2 m1:585a",
   "m1:58b3 m1:5944 m1:5954 m1:5a62 m1:5b28 m1:5ed2 m1:5ed9 m1:5f69 m1:5fad m1:60d8 m1:614e",
   "m1:6108 m1:618e m1:6160 m1:61f2 m1:6234 m1:63c4 m1:641c m1:6452 m1:6556 m1:6674 m1:6717",
   "m1:671b m1:6756 m1:6b79 m1:6bba m1:6d41 m1:6edb m1:6ecb m1:6f22 m1:701e m1:716e m1:77a7",
   "m1:7235 m1:72af m1:732a m1:7471 m1:7506 m1:753b m1:761d m1:761f m1:76ca m1:76db m1:76f4",
   "m1:774a m1:7740 m1:78cc m1:7ab1 m1:7bc0 m1:7c7b m1:7d5b m1:7df4 m1:7f3e m1:8005 m1:8352",
   "m1:83ef m1:8779 m1:8941 m1:8986 m1:8996 m1:8abf m1:8af8 m1:8acb m1:8b01 m1:8afe m1:8aed",
   "m1:8b39 m1:8b8a m1:8d08 m1:8f38 m1:9072 m1:9199 m1:9276 m1:967c m1:96e3 m1:9756 m1:97db",
   "m1:97ff m1:980b m1:983b m1:9b12 m1:9f9c m1:2284a m1:22844 m1:233d5 m1:3b9d m1:4018 m1:4039",
   "m1:25249 m1:25cd0 m1:27ed3 m1:9f43 m1:9f8e x26 m1:66.66 m1:66.69 m1:66.6c m1:66.66.69",
   "m1:66.66.6c m2:73.74 xc m1:574.576 m1:574.565 m1:574.56b m1:57e.576 m1:574.56d x5 m1:5d9.5b4",
   "v1 m1:5f2.5b7 m1:5e2 m1:5d0 s2:5d3 s3:5db m1:5e8 m1:5ea m1:2b m1:5e9.5c1 m1:5e9.5c2",
   "m1:5e9.5bc.5c1 m1:5e9.5bc.5c2 m1:5d0.5b7 m1:5d0.5b8 m1:5d0.5bc m1:5d1.5bc m1:5d2.5bc",
   "m1:5d3.5bc m1:5d4.5bc m1:5d5.5bc m1:5d6.5bc x1 m1:5d8.5bc m1:5d9.5bc m1:5da.5bc m1:5db.5bc",
   "m1:5dc.5bc x1 m1:5de.5bc x1 m1:5e0.5bc m1:5e1.5bc x1 m1:5e3.5bc m1:5e4.5bc x1 m1:5e6.5bc",
   "m1:5e7.5bc m1:5e8.5bc m1:5e9.5bc m1:5ea.5bc m1:5d5.5b9 m1:5d1.5bf m1:5db.5bf m1:5e4.5bf",
   "m1:5d0.5dc m1:671 m1:671 m1:67b m1:67b m1:67b m1:67b m1:67e m1:67e m1:67e m1:67e m1:680",
   "m1:680 m1:680 m1:680 m1:67a m1:67a m1:67a m1:67a m1:67f m1:67f m1:67f m1:67f m1:679 m1:679",
   "m1:679 m1:679 m1:6a4 m1:6a4 m1:6a4 m1:6a4 m1:6a6 m1:6a6 m1:6a6 m1:6a6 m1:684 m1:684 m1:684",
   "m1:684 m1:683 m1:683 m1:683 m1:683 m1:686 m1:686 m1:686 s2:686 m1:687 m1:687 m1:687 m1:68d",
   "m1:68d m1:68c m1:68c m1:68e m1:68e m1:688 m1:688 m1:698 m1:698 m1:691 m1:691 m1:6a9 m1:6a9",
   "m1:6a9 m1:6a9 m1:6af m1:6af m1:6af m1:6af m1:6b3 m1:6b3 m1:6b3 m1:6b3 m1:6b1 m1:6b1 m1:6b1",
   "m1:6b1 m1:6ba s2:6ba m1:6bb m1:6bb m1:6bb m1:6c0 s2:6c0 m1:6c1 m1:6c1 m1:6c1 m1:6be m1:6be",
   "m1:6be m1:6be m1:6d2 s2:6d2 m1:6d3 v11 x10 m1:6ad m1:6ad m1:6ad m1:6ad m1:6c7 m1:6c7 m1:6c6",
   "m1:6c6 m1:6c8 m1:6c8 m1:6c7.674 m1:6cb m1:6cb m1:6c5 m1:6c5 m1:6c9 m1:6c9 m1:6d0 m1:6d0",
   "m1:6d0 m1:6d0 m1:649 m1:649 m2:626.627 m2:626.6d5 m2:626.648 m2:626.6c7 m2:626.6c6",
   "m2:626.6c8 m3:626.6d0 m3:626.649 m1:6cc m1:6cc m1:6cc m1:6cc m1:626.62c m1:626.62d",
   "m1:626.645 m1:626.649 m1:626.64a m1:628.62c m1:628.62d m1:628.62e m1:628.645 m1:628.649",
   "m1:628.64a m1:62a.62c m1:62a.62d m1:62a.62e m1:62a.645 m1:62a.649 m1:62a.64a m1:62b.62c",
   "m1:62b.645 m1:62b.649 m1:62b.64a m1:62c.62d m1:62c.645 m1:62d.62c m1:62d.645 m1:62e.62c",
   "m1:62e.62d m1:62e.645 m1:633.62c m1:633.62d m1:633.62e m1:633.645 m1:635.62d m1:635.645",
   "m1:636.62c m1:636.62d m1:636.62e m1:636.645 m1:637.62d m1:637.645 m1:638.645 m1:639.62c",
   "m1:639.645 m1:63a.62c m1:63a.645 m1:641.62c m1:641.62d m1:641.62e m1:641.645 m1:641.649",
   "m1:641.64a m1:642.62d m1:642.645 m1:642.649 m1:642.64a m1:643.627 m1:643.62c m1:643.62d",
   "m1:643.62e m1:643.644 m1:643.645 m1:643.649 m1:643.64a m1:644.62c m1:644.62d m1:644.62e",
   "m1:644.645 m1:644.649 m1:644.64a m1:645.62c m1:645.62d m1:645.62e m1:645.645 m1:645.649",
   "m1:645.64a m1:646.62c m1:646.62d m1:646.62e m1:646.645 m1:646.649 m1:646.64a m1:647.62c",
   "m1:647.645 m1:647.649 m1:647.64a m1:64a.62c m1:64a.62d m1:64a.62e m1:64a.645 m1:64a.649",
   "m1:64a.64a m1:630.670 m1:631.670 m1:649.670 m1:20.64c.651 m1:20.64d.651 m1:20.64e.651",
   "m1:20.64f.651 m1:20.650.651 m1:20.651.670 m1:626.631 m1:626.632 m1:626.645 m1:626.646",
   "m1:626.649 m1:626.64a m1:628.631 m1:628.632 m1:628.645 m1:628.646 m1:628.649 m1:628.64a",
   "m1:62a.631 m1:62a.632 m1:62a.645 m1:62a.646 m1:62a.649 m1:62a.64a m1:62b.631 m1:62b.632",
   "m1:62b.645 m1:62b.646 m1:62b.649 m1:62b.64a m1:641.649 m1:641.64a m1:642.649 m1:642.64a",
   "m1:643.627 m1:643.644 m1:643.645 m1:643.649 m1:643.64a m1:644.645 m1:644.649 m1:644.64a",
   "m1:645.627 m1:645.645 m1:646.631 m1:646.632 m1:646.645 m1:646.646 m1:646.649 m1:646.64a",
   "m1:649.670 m1:64a.631 m1:64a.632 m1:64a.645 m1:64a.646 m1:64a.649 m1:64a.64a m1:626.62c",
   "m1:626.62d m1:626.62e m1:626.645 m1:626.647 m1:628.62c m1:628.62d m1:628.62e m1:628.645",
   "m1:628.647 m1:62a.62c m1:62a.62d m1:62a.62e m1:62a.645 m1:62a.647 m1:62b.645 m1:62c.62d",
   "m1:62c.645 m1:62d.62c m1:62d.645 m1:62e.62c m1:62e.645 m1:633.62c m1:633.62d m1:633.62e",
   "m1:633.645 m1:635.62d m1:635.62e m1:635.645 m1:636.62c m1:636.62d m1:636.62e m1:636.645",
   "m1:637.62d m1:638.645 m1:639.62c m1:639.645 m1:63a.62c m1:63a.645 m1:641.62c m1:641.62d",
   "m1:641.62e m1:641.645 m1:642.62d m1:642.645 m1:643.62c m1:643.62d m1:643.62e m1:643.644",
   "m1:643.645 m1:644.62c m1:644.62d m1:644.62e m1:644.645 m1:644.647 m1:645.62c m1:645.62d",
   "m1:645.62e m1:645.645 m1:646.62c m1:646.62d m1:646.62e m1:646.645 m1:646.647 m1:647.62c",
   "m1:647.645 m1:647.670 m1:64a.62c m1:64a.62d m1:64a.62e m1:64a.645 m1:64a.647 m1:626.645",
   "m1:626.647 m1:628.645 m1:628.647 m1:62a.645 m1:62a.647 m1:62b.645 m1:62b.647 m1:633.645",
   "m1:633.647 m1:634.645 m1:634.647 m1:643.644 m1:643.645 m1:644.645 m1:646.645 m1:646.647",
   "m1:64a.645 m1:64a.647 m1:640.64e.651 m1:640.64f.651 m1:640.650.651 m1:637.649 m1:637.64a",
   "m1:639.649 m1:639.64a m1:63a.649 m1:63a.64a m1:633.649 m1:633.64a m1:634.649 m1:634.64a",
   "m1:62d.649 m1:62d.64a m1:62c.649 m1:62c.64a m1:62e.649 m1:62e.64a m1:635.649 m1:635.64a",
   "m1:636.649 m1:636.64a m1:634.62c m1:634.62d m1:634.62e m1:634.645 m1:634.631 m1:633.631",
   "m1:635.631 m1:636.631 m1:637.649 m1:637.64a m1:639.649 m1:639.64a m1:63a.649 m1:63a.64a",
   "m1:633.649 m1:633.64a m1:634.649 m1:634.64a m1:62d.649 m1:62d.64a m1:62c.649 m1:62c.64a",
   "m1:62e.649 m1:62e.64a m1:635.649 m1:635.64a m1:636.649 m1:636.64a m1:634.62c m1:634.62d",
   "m1:634.62e m1:634.645 m1:634.631 m1:633.631 m1:635.631 m1:636.631 m1:634.62c m1:634.62d",
   "m1:634.62e m1:634.645 m1:633.647 m1:634.647 m1:637.645 m1:633.62c m1:633.62d m1:633.62e",
   "m1:634.62c m1:634.62d m1:634.62e m1:637.645 m1:638.645 m2:627.64b v12 m1:62a.62c.645",
   "m2:62a.62d.62c m1:62a.62d.645 m1:62a.62e.645 m1:62a.645.62c m1:62a.645.62d m1:62a.645.62e",
   "m2:62c.645.62d m1:62d.645.64a m1:62d.645.649 m1:633.62d.62c m1:633.62c.62d m1:633.62c.649",
   "m2:633.645.62d m1:633.645.62c m2:633.645.645 m2:635.62d.62d m1:635.645.645 m2:634.62d.645",
   "m1:634.62c.64a m2:634.645.62e m2:634.645.645 m1:636.62d.649 m2:636.62e.645 m2:637.645.62d",
   "m1:637.645.645 m1:637.645.64a m1:639.62c.645 m2:639.645.645 m1:639.645.649 m1:63a.645.645",
   "m1:63a.645.64a m1:63a.645.649 m2:641.62e.645 m1:642.645.62d m1:642.645.645 m1:644.62d.645",
   "m1:644.62d.64a m1:644.62d.649 m2:644.62c.62c m2:644.62e.645 m2:644.645.62d m1:645.62d.62c",
   "m1:645.62d.645 m1:645.62d.64a m1:645.62c.62d m1:645.62c.645 m1:645.62e.62c m1:645.62e.645 x2",
   "m1:645.62c.62e m1:647.645.62c m1:647.645.645 m1:646.62d.645 m1:646.62d.649 m2:646.62c.645",
   "m1:646.62c.649 m1:646.645.64a m1:646.645.649 m2:64a.645.645 m1:628.62e.64a m1:62a.62c.64a",
   "m1:62a.62c.649 m1:62a.62e.64a m1:62a.62e.649 m1:62a.645.64a m1:62a.645.649 m1:62c.645.64a",
   "m1:62c.62d.649 m1:62c.645.649 m1:633.62e.649 m1:635.62d.64a m1:634.62d.64a m1:636.62d.64a",
   "m1:644.62c.64a m1:644.645.64a m1:64a.62d.64a m1:64a.62c.64a m1:64a.645.64a m1:645.645.64a",
   "m1:642.645.64a m1:646.62d.64a m1:642.645.62d m1:644.62d.645 m1:639.645.64a m1:643.645.64a",
   "m1:646.62c.62d m1:645.62e.64a m1:644.62c.645 m1:643.645.645 m1:644.62c.645 m1:646.62c.62d",
   "m1:62c.62d.64a m1:62d.62c.64a m1:645.62c.64a m1:641.645.64a m1:628.62d.64a m1:643.645.645",
   "m1:639.62c.645 m1:635.645.645 m1:633.62e.64a m1:646.62c.64a x7 v1 x20 m1:635.644.6d2",
   "m1:642.644.6d2 m1:627.644.644.647 m1:627.643.628.631 m1:645.62d.645.62f m1:635.644.639.645",
   "m1:631.633.648.644 m1:639.644.64a.647 m1:648.633.644.645 m1:635.644.649",
   "m1:635.644.649.20.627.644.644.647.20.639.644.64a.647.20.648.633.644.645",
   "m1:62c.644.20.62c.644.627.644.647 m1:631.6cc.627.644 v3 i10 m1:2c m1:3001 x1 s2:3a m1:21",
   "m1:3f s2:3016 x7 v10 x1 m1:2014 m1:2013 m1:5f m1:5f s2:28 m1:7b m1:7d s2:3014 s2:3010",
   "s2:300a s2:3008 s4:300c v2 m1:5b m1:5d m4:20.305 m1:5f m1:5f m1:5f m1:2c m1:3001 x2 m1:3b",
   "m1:3a m1:3f m1:21 m1:2014 s2:28 m1:7b m1:7d s2:3014 m1:23 m1:26 s2:2a m1:2d m1:3c m1:3e",
   "m1:3d x1 m1:5c s2:24 m1:40 x4 m1:20.64b m1:640.64b m1:20.64c v1 m1:20.64d x1 m1:20.64e",
   "m1:640.64e m1:20.64f m1:640.64f m1:20.650 m1:640.650 m1:20.651 m1:640.651 m1:20.652",
   "m1:640.652 s2:621 s2:622 s2:623 s2:624 s2:625 m1:626 m1:626 s2:626 s2:627 m1:628 m1:628",
   "s2:628 s2:629 m1:62a m1:62a s2:62a m1:62b m1:62b s2:62b m1:62c m1:62c s2:62c m1:62d m1:62d",
   "s2:62d m1:62e m1:62e s2:62e s2:62f s2:630 s2:631 s2:632 m1:633 m1:633 s2:633 m1:634 m1:634",
   "s2:634 m1:635 m1:635 s2:635 m1:636 m1:636 s2:636 m1:637 m1:637 s2:637 m1:638 m1:638 s2:638",
   "m1:639 m1:639 s2:639 m1:63a m1:63a m1:63a m1:641 m1:641 m1:641 s2:641 m1:642 m1:642 s2:642",
   "m1:643 m1:643 s2:643 m1:644 m1:644 s2:644 m1:645 m1:645 s2:645 m1:646 m1:646 s2:646 m1:647",
   "m1:647 s2:647 s2:648 s2:649 m1:64a m1:64a m1:64a m2:644.622 m2:644.623 m2:644.625 m2:644.627",
   "x2 i1 x1 s20:21 s1a:61 s24:5b s2:2985 m1:2e s2:300c m1:3001 m1:30fb m1:30f2 m1:30a1 m1:30a3",
   "m1:30a5 m1:30a7 m1:30a9 m1:30e3 m1:30e5 m1:30e7 m1:30c3 m1:30fc m1:30a2 m1:30a4 m1:30a6",
   "m1:30a8 s2:30aa m1:30ad m1:30af m1:30b1 m1:30b3 m1:30b5 m1:30b7 m1:30b9 m1:30bb m1:30bd",
   "m1:30bf m1:30c1 m1:30c4 m1:30c6 m1:30c8 s6:30ca m1:30d2 m1:30d5 m1:30d8 m1:30db s5:30de",
   "m1:30e4 m1:30e6 s6:30e8 m1:30ef m1:30f3 s2:3099 x1 s2:1100 m1:11aa m1:1102 s2:11ac s3:1103",
   "s6:11b0 m1:111a s3:1106 m1:1121 sa:1109 x3 s6:1161 x2 s6:1167 x2 s6:116d x2 s3:1173 x3 s2:a2",
   "m1:ac m1:20.304 m1:a6 m1:a5 m1:20a9 x1 m1:2502 s4:2190 m1:25a0 m1:25cb x11 vc x1 v1a x1 v13",
   "x1 v2 x1 vf x2 ve x22 v7b x5 v3 x4 v2d x3 v58 x1 vd x3 v1 x2f v2e x82 v1d x3 v31 xf v1c x4",
   "v24 x9 v1e x5 v2b x5 v1e x1 v25 x4 ve x2a s28:10428 v76 x2 va x6 s24:104d8 x4 v24 x4 v28 x8",
   "v34 xb v1 sb:10597 x1 sf:105a3 x1 s7:105b3 x1 s2:105bb x1 vb x1 vf x1 v7 x1 v2 x43 v137 x9",
   "v16 xa v8 x18 v1 s2:2d0 m1:e6 m1:299 m1:253 x1 m1:2a3 m1:ab66 m1:2a5 m1:2a4 s2:256 m1:1d91",
   "m1:258 m1:25e m1:2a9 m1:264 m1:262 m1:260 m1:29b m1:127 m1:29c m1:267 m1:284 s2:2aa m1:26c",
   "m1:1df04 m1:a78e m1:26e m1:1df05 m1:28e m1:1df06 m1:f8 s2:276 m1:71 m1:27a m1:1df08 s2:27d",
   "m1:280 m1:2a8 m1:2a6 m1:ab67 m1:2a7 m1:288 m1:2c71 x1 m1:28f s2:2a1 m1:298 s3:1c0 m1:1df0a",
   "m1:1df1e x45 v6 x2 v1 x1 v2c x1 v2 x3 v1 x2 v17 x1 v48 x8 v9 x30 v13 x1 v2 x5 v21 x3 v1b x5",
   "v1 x40 v38 x4 v14 x2 v32 x1 v2 x5 v8 x1 v3 x1 v1d x2 v3 x4 va x7 v9 x7 v40 x20 v27 x4 vc x9",
   "v36 x3 v1d x2 v1b x5 v1a x7 v4 xc v7 x50 v49 x37 s33:10cc0 xd v33 x7 v2e x8 va x126 v1f x1",
   "v2a x1 v3 x2 v2 x4b v2b x8 v2a x16 v1a x26 v1c x14 v17 x9 v4e x4 v24 x9 v3e x1 v5 xd v19 x7",
   "va x6 v35 x1 v12 x8 v27 x9 v60 x1 v14 xb v12 x1 v2f x3e v7 x1 v1 x1 v4 x1 vf x1 vb x6 v3b x5",
   "va x6 v4 x1 v8 x2 v2 x2 v16 x1 v7 x1 v2 x1 v5 x1 va x2 v2 x2 v3 x2 v1 x6 v1 x5 v7 x2 v7 x3",
   "v5 x8b v5c x1 v5 x1e v48 x8 va xa6 v36 x2 v26 x22 v45 xb va x6 vd x13 v3a x6 va x36 v1b x2",
   "vf x4 v17 xb9 v3c x64 s20:118c0 v33 xc v8 x2 v1 x2 v8 x1 v2 x1 v1e x1 v2 x2 vc x9 va x46 v8",
   "x2 v2e x2 vb x1b v48 x8 v53 xd v49 x7 va xf6 v9 x1 v2d x1 ve xa v1d x3 v20 x2 v16 x1 ve x49",
   "v7 x1 v2 x1 v2c x3 v1 x1 v2 x1 v9 x8 va x6 v6 x1 v2 x1 v25 x1 v2 x1 v6 x7 va x136 v19 x7 v11",
   "x1 v29 x3 v1c x56 v1 xf v32 xd v39b x66 v6f x1 v5 xb vc4 xa4c v63 xd v430 x10 v16 xfaa v247",
   "x21b9 v239 x7 v1f x1 va x4 v51 x1 va x6 v1e x2 v6 xa v46 xa va x1 v7 x1 v15 x5 v13 x2b0",
   "s20:16e60 v3b x65 v4b x4 v39 x7 v11 x40 v5 xb v2 xe v17f8 x8 v4d6 x2a v9 x22e7 v4 x1 v7 x1",
   "v2 x1 v123 xf v1 x1d v3 x2 v1 xe v4 x8 v18c x904 v6b x5 vd x3 v9 x7 va x2 v4 i4 x125c v2e x2",
   "v17 x9 v74 x3c vf6 xa v27 x2 v35 m1:1d157.1d165 m1:1d158.1d165 m1:1d158.1d165.1d16e",
   "m1:1d158.1d165.1d16f m1:1d158.1d165.1d170 m1:1d158.1d165.1d171 m1:1d158.1d165.1d172 ve x8",
   "v40 m1:1d1b9.1d165 m1:1d1ba.1d165 m1:1d1b9.1d165.1d16e m1:1d1ba.1d165.1d16e",
   "m1:1d1b9.1d165.1d16f m1:1d1ba.1d165.1d16f v2a x15 v46 x7a v14 xc v14 xc v57 x9 v19 x87",
   "s1a:61 s1a:61 s1a:61 s7:61 x1 s12:69 s1a:61 s1a:61 m1:61 x1 s2:63 x2 m1:67 x2 s2:6a x2 s4:6e",
   "x1 s8:73 s4:61 x1 m1:66 x1 s7:68 x1 sb:70 s1a:61 s1a:61 s2:61 x1 s4:64 x2 s8:6a x1 s7:73 x1",
   "s1a:61 s2:61 x1 s4:64 x1 s5:69 x1 m1:6f x3 s7:73 x1 s1a:61 s1a:61 s1a:61 s1a:61 s1a:61",
   "s1a:61 s1a:61 s1a:61 s1a:61 s1a:61 s1a:61 s1a:61 s1a:61 m1:131 m1:237 x2 s11:3b1 m1:3b8",
   "s7:3c3 m1:2207 s11:3b1 m1:3c3 s7:3c3 m1:2202 m1:3b5 m1:3b8 m1:3ba m1:3c6 m1:3c1 m1:3c0",
   "s11:3b1 m1:3b8 s7:3c3 m1:2207 s11:3b1 m1:3c3 s7:3c3 m1:2202 m1:3b5 m1:3b8 m1:3ba m1:3c6",
   "m1:3c1 m1:3c0 s11:3b1 m1:3b8 s7:3c3 m1:2207 s11:3b1 m1:3c3 s7:3c3 m1:2202 m1:3b5 m1:3b8",
   "m1:3ba m1:3c6 m1:3c1 m1:3c0 s11:3b1 m1:3b8 s7:3c3 m1:2207 s11:3b1 m1:3c3 s7:3c3 m1:2202",
   "m1:3b5 m1:3b8 m1:3ba m1:3c6 m1:3c1 m1:3c0 s11:3b1 m1:3b8 s7:3c3 m1:2207 s11:3b1 m1:3c3",
   "s7:3c3 m1:2202 m1:3b5 m1:3b8 m1:3ba m1:3c6 m1:3c1 m1:3c0 m1:3dd m1:3dd x2 sa:30 sa:30 sa:30",
   "sa:30 sa:30 v28c xf v5 x1 vf x450 v1f x6 v6 xd5 v7 x1 v11 x2 v7 x1 v2 x1 v5 x5 s9:430 s3:43a",
   "sb:43e m1:44b s2:44d m1:a689 m1:4d9 m1:456 m1:458 m1:4e9 m1:4af m1:4cf s9:430 s2:43a s2:43e",
   "m1:441 s6:443 s2:44a m1:491 m1:456 m1:455 m1:45f m1:4ab m1:a651 m1:4b1 x21 v1 x70 v2d x3 ve",
   "x2 va x4 v2 x140 v1f x11 v3a x5 v1 x1d0 v2a x2e6 v7 x1 v4 x1 v2 x1 vf x1 vc5 x2 v10 x29",
   "s22:1e922 v2a x4 va x4 v2 x311 v44 x4c v3d xc2 s2:627 m1:62c m1:62f x1 m1:648 m1:632 m1:62d",
   "m1:637 m1:64a s4:643 m1:633 m1:639 m1:641 m1:635 m1:642 m1:631 m1:634 s2:62a m1:62e m1:630",
   "m1:636 m1:638 m1:63a m1:66e m1:6ba m1:6a1 m1:66f x1 m1:628 m1:62c x1 m1:647 x2 m1:62d x1",
   "m1:64a s4:643 m1:633 m1:639 m1:641 m1:635 m1:642 x1 m1:634 s2:62a m1:62e x1 m1:636 x1 m1:63a",
   "x6 m1:62c x4 m1:62d x1 m1:64a x1 m1:644 x1 m1:646 m1:633 m1:639 x1 m1:635 m1:642 x1 m1:634",
   "x2 m1:62e x1 m1:636 x1 m1:63a x1 m1:6ba x1 m1:66f x1 m1:628 m1:62c x1 m1:647 x2 m1:62d",
   "m1:637 m1:64a m1:643 x1 s2:645 m1:633 m1:639 m1:641 m1:635 m1:642 x1 m1:634 s2:62a m1:62e x1",
   "m1:636 m1:638 m1:63a m1:66e x1 m1:6a1 x1 s2:627 m1:62c m1:62f s2:647 m1:632 m1:62d m1:637",
   "m1:64a x1 s3:644 m1:633 m1:639 m1:641 m1:635 m1:642 m1:631 m1:634 s2:62a m1:62e m1:630",
   "m1:636 m1:638 m1:63a x5 m1:628 m1:62c m1:62f x1 m1:648 m1:632 m1:62d m1:637 m1:64a x1 s3:644",
   "m1:633 m1:639 m1:641 m1:635 m1:642 m1:631 m1:634 s2:62a m1:62e m1:630 m1:636 m1:638 m1:63a",
   "x34 v2 x10e v2c x4 v64 xc vf x2 vf x1 vf x1 v25 xb m1:30.2c m1:31.2c m1:32.2c m1:33.2c",
   "m1:34.2c m1:35.2c m1:36.2c m1:37.2c m1:38.2c m1:39.2c v5 m1:28.61.29 m1:28.62.29 m1:28.63.29",
   "m1:28.64.29 m1:28.65.29 m1:28.66.29 m1:28.67.29 m1:28.68.29 m1:28.69.29 m1:28.6a.29",
   "m1:28.6b.29 m1:28.6c.29 m1:28.6d.29 m1:28.6e.29 m1:28.6f.29 m1:28.70.29 m1:28.71.29",
   "m1:28.72.29 m1:28.73.29 m1:28.74.29 m1:28.75.29 m1:28.76.29 m1:28.77.29 m1:28.78.29",
   "m1:28.79.29 m1:28.7a.29 m1:3014.73.3015 m1:63 m1:72 m1:63.64 m1:77.7a v1 s1a:61 m1:68.76",
   "m1:6d.76 m1:73.64 m1:73.73 m1:70.70.76 m1:77.63 v1a m1:6d.63 m1:6d.64 m1:6d.72 v23 m1:64.6a",
   "v1d x38 v1a m1:307b.304b m1:30b3.30b3 m1:30b5 xd m1:624b m1:5b57 m1:53cc m1:30c7 m1:4e8c",
   "m1:591a m1:89e3 m1:5929 m1:4ea4 m1:6620 m1:7121 m1:6599 m1:524d m1:5f8c m1:518d m1:65b0",
   "m1:521d m1:7d42 m1:751f m1:8ca9 m1:58f0 m1:5439 m1:6f14 m1:6295 m1:6355 m1:4e00 m1:4e09",
   "m1:904a m1:5de6 m1:4e2d m1:53f3 m1:6307 m1:8d70 m1:6253 m1:7981 m1:7a7a m1:5408 m1:6e80",
   "m1:6709 m1:6708 m1:7533 m1:5272 m1:55b6 m1:914d x4 m1:3014.672c.3015 m1:3014.4e09.3015",
   "m1:3014.4e8c.3015 m1:3014.5b89.3015 m1:3014.70b9.3015 m1:3014.6253.3015 m1:3014.76d7.3015",
   "m1:3014.52dd.3015 m1:3014.6557.3015 x7 m1:5f97 m1:53ef xe v6 x9a v3d8 x4 v11 x3 vd x3 v77 x4",
   "v5f x6 vc x4 v1 xf vc x4 v38 x8 va x6 v28 x8 v1e x2 v2 x4e v154 xc ve x2 vd x3 v9 x7 v2e x1",
   "v7 x8 ve x4 v9 x7 v9 x7 v93 x1 v37 x25 sa:30 x406 va6e0 x20 v103a x6 vde x2 v1682 xe v1d31",
   "xf v26e x9a2 m1:4e3d m1:4e38 m1:4e41 m1:20122 m1:4f60 m1:4fae m1:4fbb m1:5002 m1:507a",
   "m1:5099 m1:50e7 m1:50cf m1:349e m1:2063a m1:514d m1:5154 m1:5164 m1:5177 m1:2051c m1:34b9",
   "m1:5167 m1:518d m1:2054b m1:5197 m1:51a4 m1:4ecc m1:51ac m1:51b5 m1:291df m1:51f5 m1:5203",
   "m1:34df m1:523b m1:5246 m1:5272 m1:5277 m1:3515 m1:52c7 m1:52c9 m1:52e4 m1:52fa s2:5305",
   "m1:5317 m1:5349 m1:5351 m1:535a m1:5373 m1:537d m1:537f m1:537f m1:537f m1:20a2c m1:7070",
   "m1:53ca m1:53df m1:20b63 m1:53eb m1:53f1 m1:5406 m1:549e m1:5438 m1:5448 m1:5468 m1:54a2",
   "m1:54f6 m1:5510 m1:5553 m1:5563 m1:5584 m1:5584 m1:5599 m1:55ab m1:55b3 m1:55c2 m1:5716",
   "m1:5606 m1:5717 m1:5651 m1:5674 m1:5207 m1:58ee m1:57ce m1:57f4 m1:580d m1:578b m1:5832",
   "m1:5831 m1:58ac m1:214e4 m1:58f2 m1:58f7 m1:5906 m1:591a m1:5922 m1:5962 m1:216a8 m1:216ea",
   "m1:59ec m1:5a1b m1:5a27 m1:59d8 m1:5a66 m1:36ee x1 m1:5b08 m1:5b3e m1:5b3e m1:219c8 m1:5bc3",
   "m1:5bd8 m1:5be7 m1:5bf3 m1:21b18 m1:5bff m1:5c06 x1 m1:5c22 m1:3781 m1:5c60 m1:5c6e m1:5cc0",
   "m1:5c8d m1:21de4 m1:5d43 m1:21de6 m1:5d6e m1:5d6b m1:5d7c s2:5de1 m1:382f m1:5dfd m1:5e28",
   "m1:5e3d m1:5e69 m1:3862 m1:22183 m1:387c m1:5eb0 m1:5eb3 m1:5eb6 m1:5eca m1:2a392 m1:5efe",
   "m1:22331 m1:22331 m1:8201 m1:5f22 m1:5f22 m1:38c7 m1:232b8 m1:261da m1:5f62 m1:5f6b m1:38e3",
   "m1:5f9a m1:5fcd m1:5fd7 m1:5ff9 m1:6081 m1:393a m1:391c m1:6094 m1:226d4 m1:60c7 m1:6148",
   "m1:614c m1:614e m1:614c m1:617a m1:618e m1:61b2 m1:61a4 m1:61af m1:61de m1:61f2 m1:61f6",
   "m1:6210 m1:621b m1:625d m1:62b1 m1:62d4 m1:6350 m1:22b0c m1:633d m1:62fc m1:6368 m1:6383",
   "m1:63e4 m1:22bf1 m1:6422 m1:63c5 m1:63a9 m1:3a2e m1:6469 m1:647e m1:649d m1:6477 m1:3a6c",
   "m1:654f m1:656c m1:2300a m1:65e3 m1:66f8 m1:6649 m1:3b19 m1:6691 m1:3b08 m1:3ae4 m1:5192",
   "m1:5195 m1:6700 m1:669c m1:80ad m1:43d9 m1:6717 m1:671b m1:6721 m1:675e m1:6753 m1:233c3",
   "m1:3b49 m1:67fa m1:6785 m1:6852 m1:6885 m1:2346d m1:688e m1:681f m1:6914 m1:3b9d m1:6942",
   "m1:69a3 m1:69ea m1:6aa8 m1:236a3 m1:6adb m1:3c18 m1:6b21 m1:238a7 m1:6b54 m1:3c4e m1:6b72",
   "m1:6b9f s2:6bba m1:23a8d m1:21d0b m1:23afa m1:6c4e m1:23cbc m1:6cbf m1:6ccd m1:6c67 m1:6d16",
   "m1:6d3e m1:6d77 m1:6d41 m1:6d69 m1:6d78 m1:6d85 m1:23d1e m1:6d34 m1:6e2f m1:6e6e m1:3d33",
   "m1:6ecb m1:6ec7 m1:23ed1 m1:6df9 m1:6f6e m1:23f5e m1:23f8e m1:6fc6 m1:7039 m1:701e m1:701b",
   "m1:3d96 m1:704a m1:707d m1:7077 m1:70ad m1:20525 m1:7145 m1:24263 m1:719c x1 m1:7228 m1:7235",
   "m1:7250 m1:24608 m1:7280 m1:7295 m1:24735 m1:24814 m1:737a m1:738b m1:3eac m1:73a5 m1:3eb8",
   "m1:3eb8 m1:7447 m1:745c m1:7471 m1:7485 m1:74ca m1:3f1b m1:7524 m1:24c36 m1:753e m1:24c92",
   "m1:7570 m1:2219f m1:7610 m1:24fa1 m1:24fb8 m1:25044 m1:3ffc m1:4008 m1:76f4 m1:250f3",
   "m1:250f2 m1:25119 m1:25133 s2:771e m1:771f m1:774a m1:4039 m1:778b m1:4046 m1:4096 m1:2541d",
   "m1:784e m1:788c m1:78cc m1:40e3 m1:25626 m1:7956 m1:2569a m1:256c5 m1:798f m1:79eb m1:412f",
   "m1:7a40 m1:7a4a m1:7a4f m1:2597c m1:25aa7 m1:25aa7 x1 m1:4202 m1:25bab m1:7bc6 m1:7bc9",
   "m1:4227 m1:25c80 m1:7cd2 m1:42a0 m1:7ce8 m1:7ce3 m1:7d00 m1:25f86 m1:7d63 m1:4301 m1:7dc7",
   "m1:7e02 m1:7e45 m1:4334 m1:26228 m1:26247 m1:4359 m1:262d9 m1:7f7a m1:2633e m1:7f95 m1:7ffa",
   "m1:8005 m1:264da m1:26523 m1:8060 m1:265a8 m1:8070 m1:2335f m1:43d5 m1:80b2 m1:8103 m1:440b",
   "m1:813e m1:5ab5 m1:267a7 m1:267b5 m1:23393 m1:2339c m1:8201 m1:8204 m1:8f9e m1:446b m1:8291",
   "m1:828b m1:829d m1:52b3 m1:82b1 m1:82b3 m1:82bd m1:82e6 m1:26b3c m1:82e5 m1:831d m1:8363",
   "m1:83ad m1:8323 m1:83bd m1:83e7 m1:8457 m1:8353 m1:83ca m1:83cc m1:83dc m1:26c36 m1:26d6b",
   "m1:26cd5 m1:452b m1:84f1 m1:84f3 m1:8516 m1:273ca m1:8564 m1:26f2c m1:455d m1:4561 m1:26fb1",
   "m1:270d2 m1:456b m1:8650 m1:865c m1:8667 m1:8669 m1:86a9 m1:8688 m1:870e m1:86e2 m1:8779",
   "m1:8728 m1:876b m1:8786 x1 m1:87e1 m1:8801 m1:45f9 m1:8860 m1:8863 m1:27667 m1:88d7 m1:88de",
   "m1:4635 m1:88fa m1:34bb m1:278ae m1:27966 m1:46be m1:46c7 m1:8aa0 m1:8aed m1:8b8a m1:8c55",
   "m1:27ca8 m1:8cab m1:8cc1 m1:8d1b m1:8d77 m1:27f2f m1:20804 m1:8dcb m1:8dbc m1:8df0 m1:208de",
   "m1:8ed4 m1:8f38 m1:285d2 m1:285ed m1:9094 m1:90f1 m1:9111 m1:2872e m1:911b m1:9238 s2:92d7",
   "m1:927c m1:93f9 m1:9415 m1:28bfa m1:958b m1:4995 m1:95b7 m1:28d77 m1:49e6 m1:96c3 m1:5db2",
   "m1:9723 m1:29145 m1:2921a m1:4a6e m1:4a76 m1:97e0 m1:2940a m1:4ab2 m1:29496 m1:980b m1:980b",
   "m1:9829 m1:295b6 m1:98e2 m1:4b33 m1:9929 m1:99a7 m1:99c2 m1:99fe m1:4bce m1:29b30 m1:9b12",
   "m1:9c40 m1:9cfd m1:4cce m1:4ced m1:9d67 m1:2a0ce m1:4cf8 m1:2a105 m1:2a20e m1:2a291 m1:9ebb",
   "m1:4d56 m1:9ef9 m1:9efe m1:9f05 m1:9f0f m1:9f16 m1:9f3b m1:2a600 x5e2 v134b x5 v1060 xadd50",
   "if0 x2fe10"]

end ProxyKeeper.Idna
