import SchemaCheck.Text.CodeMap

/-! Upper-case forms of single characters. -/
namespace SchemaCheck

/-- Characters with an upper-case form of one character; none leads from outside ASCII into it. -/
def upperCases : CodeMap := .ofText "61-7a=41 b5=39c e0-f6=c0 f8-fe=d8 ff=178 101-12f,2=100 133-137,2=132 13a-148,2=139 14b-177,2=14a
17a-17e,2=179 180=243 183-185,2=182 188=187 18c=18b 192=191 195=1f6 199=198 19a=23d 19b=a7dc
19e=220 1a1-1a5,2=1a0 1a8=1a7 1ad=1ac 1b0=1af 1b4-1b6,2=1b3 1b9=1b8 1bd=1bc 1bf=1f7 1c5-1c6,0=1c4
1c8-1c9,0=1c7 1cb-1cc,0=1ca 1ce-1dc,2=1cd 1dd=18e 1df-1ef,2=1de 1f2-1f3,0=1f1 1f5=1f4
1f9-21f,2=1f8 223-233,2=222 23c=23b 23f-240=2c7e 242=241 247-24f,2=246 250=2c6f 251=2c6d 252=2c70
253=181 254=186 256-257=189 259=18f 25b=190 25c=a7ab 260=193 261=a7ac 263=194 264=a7cb 265=a78d
266=a7aa 268=197 269=196 26a=a7ae 26b=2c62 26c=a7ad 26f=19c 271=2c6e 272=19d 275=19f 27d=2c64
280=1a6 282=a7c5 283=1a9 287=a7b1 288=1ae 289=244 28a-28b=1b1 28c=245 292=1b7 29d=a7b2 29e=a7b0
345=399 371-373,2=370 377=376 37b-37d=3fd 3ac=386 3ad-3af=388 3b1-3c1=391 3c2-3c3,0=3a3
3c4-3cb=3a4 3cc=38c 3cd-3ce=38e 3d0=392 3d1=398 3d5=3a6 3d6=3a0 3d7=3cf 3d9-3ef,2=3d8 3f0=39a
3f1=3a1 3f2=3f9 3f3=37f 3f5=395 3f8=3f7 3fb=3fa 430-44f=410 450-45f=400 461-481,2=460
48b-4bf,2=48a 4c2-4ce,2=4c1 4cf=4c0 4d1-52f,2=4d0 561-586=531 10d0-10fa=1c90 10fd-10ff=1cbd
13f8-13fd=13f0 1c80=412 1c81=414 1c82=41e 1c83-1c84=421 1c85=422 1c86=42a 1c87=462 1c88=a64a
1c8a=1c89 1d79=a77d 1d7d=2c63 1d8e=a7c6 1e01-1e95,2=1e00 1e9b=1e60 1ea1-1eff,2=1ea0 1f00-1f07=1f08
1f10-1f15=1f18 1f20-1f27=1f28 1f30-1f37=1f38 1f40-1f45=1f48 1f51-1f57,2=1f59 1f60-1f67=1f68
1f70-1f71=1fba 1f72-1f75=1fc8 1f76-1f77=1fda 1f78-1f79=1ff8 1f7a-1f7b=1fea 1f7c-1f7d=1ffa
1fb0-1fb1=1fb8 1fbe=399 1fd0-1fd1=1fd8 1fe0-1fe1=1fe8 1fe5=1fec 214e=2132 2170-217f=2160 2184=2183
24d0-24e9=24b6 2c30-2c5f=2c00 2c61=2c60 2c65=23a 2c66=23e 2c68-2c6c,2=2c67 2c73=2c72 2c76=2c75
2c81-2ce3,2=2c80 2cec-2cee,2=2ceb 2cf3=2cf2 2d00-2d25=10a0 2d27=10c7 2d2d=10cd a641-a66d,2=a640
a681-a69b,2=a680 a723-a72f,2=a722 a733-a76f,2=a732 a77a-a77c,2=a779 a77f-a787,2=a77e a78c=a78b
a791-a793,2=a790 a794=a7c4 a797-a7a9,2=a796 a7b5-a7c3,2=a7b4 a7c8-a7ca,2=a7c7 a7cd-a7db,2=a7cc
a7f6=a7f5 ab53=a7b3 ab70-abbf=13a0 ff41-ff5a=ff21 10428-1044f=10400 104d8-104fb=104b0
10597-105a1=10570 105a3-105b1=1057c 105b3-105b9=1058c 105bb-105bc=10594 10cc0-10cf2=10c80
10d70-10d85=10d50 118c0-118df=118a0 16e60-16e7f=16e40 16ebb-16ed3=16ea0 1e922-1e943=1e900"

/-- The upper-case form of a code point, itself if it has none. -/
def upperCase (point : Nat) : Nat := ((upperCases.find? point).getD []).headD point

/-- Every code point with the upper-case form of this one. -/
def caseVariants (point : Nat) : List Nat :=
  let upper := upperCase point
  upper :: upperCases.sources [upper]

end SchemaCheck
