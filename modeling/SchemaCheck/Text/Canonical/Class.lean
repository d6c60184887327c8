import SchemaCheck.Text.CodeMap

/-! Canonical combining classes: the order of marks that share a character. -/
namespace SchemaCheck

/-- Marks that are put in order, with their classes. -/
def combiningClasses : CodeMap := .ofText "300-314,0=e6 315=e8 316-319,0=dc 31a=e8 31b=d8 31c-320,0=dc 321-322,0=ca 323-326,0=dc 327-328,0=ca
329-333,0=dc 334-338,0=1 339-33c,0=dc 33d-33f,0=e6 342=e6 345=f0 346=e6 347-349,0=dc 34a-34c,0=e6
34d-34e,0=dc 350-352,0=e6 353-356,0=dc 357=e6 358=e8 359-35a,0=dc 35b=e6 35c-35d=e9 35e=ea
35f-360=e9 361=ea 362=e9 363-36f,0=e6 483-487,0=e6 591=dc 592-595,0=e6 596=dc 597-599,0=e6 59a=de
59b=dc 59c-5a1,0=e6 5a2-5a7,0=dc 5a8-5a9,0=e6 5aa=dc 5ab-5ac,0=e6 5ad=de 5ae=e4 5af=e6 5b0-5b9=a
5ba-5bd=13 5bf=17 5c1-5c2=18 5c4=e6 5c5=dc 5c7=12 610-617,0=e6 618-61a=1e 64b-652=1b 653-654,0=e6
655-656,0=dc 657-65b,0=e6 65c=dc 65d-65e,0=e6 65f=dc 670=23 6d6-6dc,0=e6 6df-6e2,0=e6 6e3=dc
6e4=e6 6e7-6e8,0=e6 6ea=dc 6eb-6ec,0=e6 6ed=dc 711=24 730=e6 731=dc 732-733,0=e6 734=dc
735-736,0=e6 737-739,0=dc 73a=e6 73b-73c,0=dc 73d=e6 73e=dc 73f-741,0=e6 742=dc 743=e6 744=dc
745=e6 746=dc 747=e6 748=dc 749-74a,0=e6 7eb-7f1,0=e6 7f2=dc 7f3=e6 7fd=dc 816-819,0=e6
81b-823,0=e6 825-827,0=e6 829-82d,0=e6 859-85b,0=dc 897-898,0=e6 899-89b,0=dc 89c-89f,0=e6
8ca-8ce,0=e6 8cf-8d3,0=dc 8d4-8e1,0=e6 8e3=dc 8e4-8e5,0=e6 8e6=dc 8e7-8e8,0=e6 8e9=dc 8ea-8ec,0=e6
8ed-8ef,0=dc 8f0-8f2=1b 8f3-8f5,0=e6 8f6=dc 8f7-8f8,0=e6 8f9-8fa,0=dc 8fb-8ff,0=e6 93c=7 94d=9
951=e6 952=dc 953-954,0=e6 9bc=7 9cd=9 9fe=e6 a3c=7 a4d=9 abc=7 acd=9 b3c=7 b4d=9 bcd=9 c3c=7
c4d=9 c55=54 c56=5b cbc=7 ccd=9 d3b-d3c,0=9 d4d=9 dca=9 e38-e39,0=67 e3a=9 e48-e4b,0=6b
eb8-eb9,0=76 eba=9 ec8-ecb,0=7a f18-f19,0=dc f35=dc f37=dc f39=d8 f71-f72=81 f74=84 f7a-f7d,0=82
f80=82 f82-f83,0=e6 f84=9 f86-f87,0=e6 fc6=dc 1037-1039,2=7 103a=9 108d=dc 135d-135f,0=e6
1714-1715,0=9 1734=9 17d2=9 17dd=e6 18a9=e4 1939=de 193a=e6 193b=dc 1a17=e6 1a18=dc 1a60=9
1a75-1a7c,0=e6 1a7f=dc 1ab0-1ab4,0=e6 1ab5-1aba,0=dc 1abb-1abc,0=e6 1abd=dc 1abf-1ac0,0=dc
1ac1-1ac2,0=e6 1ac3-1ac4,0=dc 1ac5-1ac9,0=e6 1aca=dc 1acb-1adc,0=e6 1add=dc 1ae0-1ae5,0=e6 1ae6=dc
1ae7-1aea,0=e6 1aeb=ea 1b34=7 1b44=9 1b6b=e6 1b6c=dc 1b6d-1b73,0=e6 1baa-1bab,0=9 1be6=7
1bf2-1bf3,0=9 1c37=7 1cd0-1cd2,0=e6 1cd4=1 1cd5-1cd9,0=dc 1cda-1cdb,0=e6 1cdc-1cdf,0=dc 1ce0=e6
1ce2-1ce8,0=1 1ced=dc 1cf4=e6 1cf8-1cf9,0=e6 1dc0-1dc1,0=e6 1dc2=dc 1dc3-1dc9,0=e6 1dca=dc
1dcb-1dcc,0=e6 1dcd=ea 1dce=d6 1dcf=dc 1dd0=ca 1dd1-1df5,0=e6 1df6=e8 1df7-1df8,0=e4 1df9=dc
1dfa=da 1dfb=e6 1dfc=e9 1dfd=dc 1dfe=e6 1dff=dc 20d0-20d1,0=e6 20d2-20d3,0=1 20d4-20d7,0=e6
20d8-20da,0=1 20db-20dc,0=e6 20e1=e6 20e5-20e6,0=1 20e7=e6 20e8=dc 20e9=e6 20ea-20eb,0=1
20ec-20ef,0=dc 20f0=e6 2cef-2cf1,0=e6 2d7f=9 2de0-2dff,0=e6 302a=da 302b=e4 302c=e8 302d=de
302e-302f,0=e0 3099-309a,0=8 a66f=e6 a674-a67d,0=e6 a69e-a69f,0=e6 a6f0-a6f1,0=e6 a806=9 a82c=9
a8c4=9 a8e0-a8f1,0=e6 a92b-a92d,0=dc a953=9 a9b3=7 a9c0=9 aab0=e6 aab2-aab3,0=e6 aab4=dc
aab7-aab8,0=e6 aabe-aabf,0=e6 aac1=e6 aaf6=9 abed=9 fb1e=1a fe20-fe26,0=e6 fe27-fe2d,0=dc
fe2e-fe2f,0=e6 101fd=dc 102e0=dc 10376-1037a,0=e6 10a0d=dc 10a0f=e6 10a38=e6 10a39=1 10a3a=dc
10a3f=9 10ae5=e6 10ae6=dc 10d24-10d27,0=e6 10d69-10d6d,0=e6 10eab-10eac,0=e6 10efa-10efb,0=dc
10efd-10eff,0=dc 10f46-10f47,0=dc 10f48-10f4a,0=e6 10f4b=dc 10f4c=e6 10f4d-10f50,0=dc 10f82=e6
10f83=dc 10f84=e6 10f85=dc 11046=9 11070=9 1107f=9 110b9=9 110ba=7 11100-11102,0=e6
11133-11134,0=9 11173=7 111c0=9 111ca=7 11235=9 11236=7 112e9=7 112ea=9 1133b-1133c,0=7 1134d=9
11366-1136c,0=e6 11370-11374,0=e6 113ce-113d0,0=9 11442=9 11446=7 1145e=e6 114c2=9 114c3=7 115bf=9
115c0=7 1163f=9 116b6=9 116b7=7 1172b=9 11839=9 1183a=7 1193d-1193e,0=9 11943=7 119e0=9 11a34=9
11a47=9 11a99=9 11c3f=9 11d42-11d44,2=7 11d45=9 11d97=9 11f41-11f42,0=9 1612f=9 16af0-16af4,0=1
16b30-16b36,0=e6 16ff0-16ff1,0=6 1bc9e=1 1d165-1d166,0=d8 1d167-1d169,0=1 1d16d=e2
1d16e-1d172,0=d8 1d17b-1d182,0=dc 1d185-1d189,0=e6 1d18a-1d18b,0=dc 1d1aa-1d1ad,0=e6
1d242-1d244,0=e6 1e000-1e006,0=e6 1e008-1e018,0=e6 1e01b-1e021,0=e6 1e023-1e024,0=e6
1e026-1e02a,0=e6 1e08f=e6 1e130-1e136,0=e6 1e2ae=e6 1e2ec-1e2ef,0=e6 1e4ec-1e4ed,0=e8 1e4ee=dc
1e4ef=e6 1e5ee=e6 1e5ef=dc 1e6e3=e6 1e6e6=e6 1e6ee-1e6ef,0=e6 1e6f5=e6 1e8d0-1e8d6,0=dc
1e944-1e949,0=e6 1e94a=7"

/-- Zero for a character that keeps its place. -/
def combiningClass (point : Nat) : Nat := ((combiningClasses.find? point).getD []).headD 0

/-- Signs that join consonants share this class. -/
def viramaClass : Nat := 9

/-- Marks that combine with the character before them, ordered or not. -/
def combiningMarks : CodePoints := .ofText "300-36f 483-489 591-5bd 5bf 5c1-5c2 5c4-5c5 5c7 610-61a 64b-65f 670 6d6-6dc 6df-6e4 6e7-6e8
6ea-6ed 711 730-74a 7a6-7b0 7eb-7f3 7fd 816-819 81b-823 825-827 829-82d 859-85b 897-89f 8ca-8e1
8e3-903 93a-93c 93e-94f 951-957 962-963 981-983 9bc 9be-9c4 9c7-9c8 9cb-9cd 9d7 9e2-9e3 9fe
a01-a03 a3c a3e-a42 a47-a48 a4b-a4d a51 a70-a71 a75 a81-a83 abc abe-ac5 ac7-ac9 acb-acd ae2-ae3
afa-aff b01-b03 b3c b3e-b44 b47-b48 b4b-b4d b55-b57 b62-b63 b82 bbe-bc2 bc6-bc8 bca-bcd bd7
c00-c04 c3c c3e-c44 c46-c48 c4a-c4d c55-c56 c62-c63 c81-c83 cbc cbe-cc4 cc6-cc8 cca-ccd cd5-cd6
ce2-ce3 cf3 d00-d03 d3b-d3c d3e-d44 d46-d48 d4a-d4d d57 d62-d63 d81-d83 dca dcf-dd4 dd6 dd8-ddf
df2-df3 e31 e34-e3a e47-e4e eb1 eb4-ebc ec8-ece f18-f19 f35 f37 f39 f3e-f3f f71-f84 f86-f87
f8d-f97 f99-fbc fc6 102b-103e 1056-1059 105e-1060 1062-1064 1067-106d 1071-1074 1082-108d 108f
109a-109d 135d-135f 1712-1715 1732-1734 1752-1753 1772-1773 17b4-17d3 17dd 180b-180d 180f
1885-1886 18a9 1920-192b 1930-193b 1a17-1a1b 1a55-1a5e 1a60-1a7c 1a7f 1ab0-1add 1ae0-1aeb
1b00-1b04 1b34-1b44 1b6b-1b73 1b80-1b82 1ba1-1bad 1be6-1bf3 1c24-1c37 1cd0-1cd2 1cd4-1ce8 1ced
1cf4 1cf7-1cf9 1dc0-1dff 20d0-20f0 2cef-2cf1 2d7f 2de0-2dff 302a-302f 3099-309a a66f-a672
a674-a67d a69e-a69f a6f0-a6f1 a802 a806 a80b a823-a827 a82c a880-a881 a8b4-a8c5 a8e0-a8f1 a8ff
a926-a92d a947-a953 a980-a983 a9b3-a9c0 a9e5 aa29-aa36 aa43 aa4c-aa4d aa7b-aa7d aab0 aab2-aab4
aab7-aab8 aabe-aabf aac1 aaeb-aaef aaf5-aaf6 abe3-abea abec-abed fb1e fe00-fe0f fe20-fe2f 101fd
102e0 10376-1037a 10a01-10a03 10a05-10a06 10a0c-10a0f 10a38-10a3a 10a3f 10ae5-10ae6 10d24-10d27
10d69-10d6d 10eab-10eac 10efa-10eff 10f46-10f50 10f82-10f85 11000-11002 11038-11046 11070
11073-11074 1107f-11082 110b0-110ba 110c2 11100-11102 11127-11134 11145-11146 11173 11180-11182
111b3-111c0 111c9-111cc 111ce-111cf 1122c-11237 1123e 11241 112df-112ea 11300-11303 1133b-1133c
1133e-11344 11347-11348 1134b-1134d 11357 11362-11363 11366-1136c 11370-11374 113b8-113c0 113c2
113c5 113c7-113ca 113cc-113d0 113d2 113e1-113e2 11435-11446 1145e 114b0-114c3 115af-115b5
115b8-115c0 115dc-115dd 11630-11640 116ab-116b7 1171d-1172b 1182c-1183a 11930-11935 11937-11938
1193b-1193e 11940 11942-11943 119d1-119d7 119da-119e0 119e4 11a01-11a0a 11a33-11a39 11a3b-11a3e
11a47 11a51-11a5b 11a8a-11a99 11b60-11b67 11c2f-11c36 11c38-11c3f 11c92-11ca7 11ca9-11cb6
11d31-11d36 11d3a 11d3c-11d3d 11d3f-11d45 11d47 11d8a-11d8e 11d90-11d91 11d93-11d97 11ef3-11ef6
11f00-11f01 11f03 11f34-11f3a 11f3e-11f42 11f5a 13440 13447-13455 1611e-1612f 16af0-16af4
16b30-16b36 16f4f 16f51-16f87 16f8f-16f92 16fe4 16ff0-16ff1 1bc9d-1bc9e 1cf00-1cf2d 1cf30-1cf46
1d165-1d169 1d16d-1d172 1d17b-1d182 1d185-1d18b 1d1aa-1d1ad 1d242-1d244 1da00-1da36 1da3b-1da6c
1da75 1da84 1da9b-1da9f 1daa1-1daaf 1e000-1e006 1e008-1e018 1e01b-1e021 1e023-1e024 1e026-1e02a
1e08f 1e130-1e136 1e2ae 1e2ec-1e2ef 1e4ec-1e4ef 1e5ee-1e5ef 1e6e3 1e6e6 1e6ee-1e6ef 1e6f5
1e8d0-1e8d6 1e944-1e94a e0100-e01ef"

end SchemaCheck
