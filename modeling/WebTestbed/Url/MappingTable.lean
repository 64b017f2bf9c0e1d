import WebTestbed.Text.Ranges

/-! How characters are mapped in domain names: tables of Unicode 17. -/
namespace WebTestbed.DomainName

def disallowed : Text.Ranges := Text.Ranges.ofStrings [
  "80-9F 378-379 380-383 38B 38D 3A2 530 557-558 58B-58C 590 5C8-5CF 5EB-5EE 5F5-605 61C 6DD",
  "70E-70F 74B-74C 7B2-7BF 7FB-7FC 82E-82F 83F 85C-85D 85F 86B-86F 890-896 8E2 984 98D-98E",
  "991-992 9A9 9B1 9B3-9B5 9BA-9BB 9C5-9C6 9C9-9CA 9CF-9D6 9D8-9DB 9DE 9E4-9E5 9FF-A00 A04",
  "A0B-A0E A11-A12 A29 A31 A34 A37 A3A-A3B A3D A43-A46 A49-A4A A4E-A50 A52-A58 A5D A5F-A65",
  "A77-A80 A84 A8E A92 AA9 AB1 AB4 ABA-ABB AC6 ACA ACE-ACF AD1-ADF AE4-AE5 AF2-AF8 B00 B04",
  "B0D-B0E B11-B12 B29 B31 B34 B3A-B3B B45-B46 B49-B4A B4E-B54 B58-B5B B5E B64-B65 B78-B81 B84",
  "B8B-B8D B91 B96-B98 B9B B9D BA0-BA2 BA5-BA7 BAB-BAD BBA-BBD BC3-BC5 BC9 BCE-BCF BD1-BD6",
  "BD8-BE5 BFB-BFF C0D C11 C29 C3A-C3B C45 C49 C4E-C54 C57 C5B C5E-C5F C64-C65 C70-C76 C8D C91",
  "CA9 CB4 CBA-CBB CC5 CC9 CCE-CD4 CD7-CDB CDF CE4-CE5 CF0 CF4-CFF D0D D11 D45 D49 D50-D53",
  "D64-D65 D80 D84 D97-D99 DB2 DBC DBE-DBF DC7-DC9 DCB-DCE DD5 DD7 DE0-DE5 DF0-DF1 DF5-E00",
  "E3B-E3E E5C-E80 E83 E85 E8B EA4 EA6 EBE-EBF EC5 EC7 ECF EDA-EDB EE0-EFF F48 F6D-F70 F98 FBD",
  "FCD FDB-FFF 10C6 10C8-10CC 10CE-10CF 1249 124E-124F 1257 1259 125E-125F 1289 128E-128F 12B1",
  "12B6-12B7 12BF 12C1 12C6-12C7 12D7 1311 1316-1317 135B-135C 137D-137F 139A-139F 13F6-13F7",
  "13FE-13FF 1680 169D-169F 16F9-16FF 1716-171E 1737-173F 1754-175F 176D 1771 1774-177F",
  "17DE-17DF 17EA-17EF 17FA-17FF 181A-181F 1879-187F 18AB-18AF 18F6-18FF 191F 192C-192F",
  "193C-193F 1941-1943 196E-196F 1975-197F 19AC-19AF 19CA-19CF 19DB-19DD 1A1C-1A1D 1A5F",
  "1A7D-1A7E 1A8A-1A8F 1A9A-1A9F 1AAE-1AAF 1ADE-1ADF 1AEC-1AFF 1B4D 1BF4-1BFB 1C38-1C3A",
  "1C4A-1C4C 1C8B-1C8F 1CBB-1CBC 1CC8-1CCF 1CFB-1CFF 1F16-1F17 1F1E-1F1F 1F46-1F47 1F4E-1F4F",
  "1F58 1F5A 1F5C 1F5E 1F7E-1F7F 1FB5 1FC5 1FD4-1FD5 1FDC 1FF0-1FF1 1FF5 1FFF 200E-200F",
  "2024-2026 2028-202E 2065-2069 2072-2073 208F 209D-209F 20C2-20CF 20F1-20FF 218C-218F",
  "242A-243F 244B-245F 2488-249B 2B74-2B75 2CF4-2CF8 2D26 2D28-2D2C 2D2E-2D2F 2D68-2D6E",
  "2D71-2D7E 2D97-2D9F 2DA7 2DAF 2DB7 2DBF 2DC7 2DCF 2DD7 2DDF 2E5E-2E7F 2E9A 2EF4-2EFF",
  "2FD6-2FFF 3040 3097-3098 3100-3104 3130 318F 31E6-31EF 321F 33C2 33C7 33D8 A48D-A48F",
  "A4C7-A4CF A62C-A63F A6F8-A6FF A7DD-A7F0 A82D-A82F A83A-A83F A878-A87F A8C6-A8CD A8DA-A8DF",
  "A954-A95E A97D-A97F A9CE A9DA-A9DD A9FF AA37-AA3F AA4E-AA4F AA5A-AA5B AAC3-AADA AAF7-AB00",
  "AB07-AB08 AB0F-AB10 AB17-AB1F AB27 AB2F AB6C-AB6F ABEE-ABEF ABFA-ABFF D7A4-D7AF D7C7-D7CA",
  "D7FC-F8FF FA6E-FA6F FADA-FAFF FB07-FB12 FB18-FB1C FB37 FB3D FB3F FB42 FB45 FDD0-FDEF FE12",
  "FE19-FE1F FE30 FE52-FE53 FE67 FE6C-FE6F FE75 FEFD-FEFE FF00 FFBF-FFC1 FFC8-FFC9 FFD0-FFD1",
  "FFD8-FFD9 FFDD-FFDF FFE7 FFEF-FFFF 1000C 10027 1003B 1003E 1004E-1004F 1005E-1007F",
  "100FB-100FF 10103-10106 10134-10136 1018F 1019D-1019F 101A1-101CF 101FE-1027F 1029D-1029F",
  "102D1-102DF 102FC-102FF 10324-1032C 1034B-1034F 1037B-1037F 1039E 103C4-103C7 103D6-103FF",
  "1049E-1049F 104AA-104AF 104D4-104D7 104FC-104FF 10528-1052F 10564-1056E 1057B 1058B 10593",
  "10596 105A2 105B2 105BA 105BD-105BF 105F4-105FF 10737-1073F 10756-1075F 10768-1077F 10786",
  "107B1 107BB-107FF 10806-10807 10809 10836 10839-1083B 1083D-1083E 10856 1089F-108A6",
  "108B0-108DF 108F3 108F6-108FA 1091C-1091E 1093A-1093E 1095A-1097F 109B8-109BB 109D0-109D1",
  "10A04 10A07-10A0B 10A14 10A18 10A36-10A37 10A3B-10A3E 10A49-10A4F 10A59-10A5F 10AA0-10ABF",
  "10AE7-10AEA 10AF7-10AFF 10B36-10B38 10B56-10B57 10B73-10B77 10B92-10B98 10B9D-10BA8",
  "10BB0-10BFF 10C49-10C7F 10CB3-10CBF 10CF3-10CF9 10D28-10D2F 10D3A-10D3F 10D66-10D68",
  "10D86-10D8D 10D90-10E5F 10E7F 10EAA 10EAE-10EAF 10EB2-10EC1 10EC8-10ECF 10ED9-10EF9",
  "10F28-10F2F 10F5A-10F6F 10F8A-10FAF 10FCC-10FDF 10FF7-10FFF 1104E-11051 11076-1107E 110BD",
  "110C3-110CF 110E9-110EF 110FA-110FF 11135 11148-1114F 11177-1117F 111E0 111F5-111FF 11212",
  "11242-1127F 11287 11289 1128E 1129E 112AA-112AF 112EB-112EF 112FA-112FF 11304 1130D-1130E",
  "11311-11312 11329 11331 11334 1133A 11345-11346 11349-1134A 1134E-1134F 11351-11356",
  "11358-1135C 11364-11365 1136D-1136F 11375-1137F 1138A 1138C-1138D 1138F 113B6 113C1",
  "113C3-113C4 113C6 113CB 113D6 113D9-113E0 113E3-113FF 1145C 11462-1147F 114C8-114CF",
  "114DA-1157F 115B6-115B7 115DE-115FF 11645-1164F 1165A-1165F 1166D-1167F 116BA-116BF",
  "116CA-116CF 116E4-116FF 1171B-1171C 1172C-1172F 11747-117FF 1183C-1189F 118F3-118FE",
  "11907-11908 1190A-1190B 11914 11917 11936 11939-1193A 11947-1194F 1195A-1199F 119A8-119A9",
  "119D8-119D9 119E5-119FF 11A48-11A4F 11AA3-11AAF 11AF9-11AFF 11B0A-11B5F 11B68-11BBF",
  "11BE2-11BEF 11BFA-11BFF 11C09 11C37 11C46-11C4F 11C6D-11C6F 11C90-11C91 11CA8 11CB7-11CFF",
  "11D07 11D0A 11D37-11D39 11D3B 11D3E 11D48-11D4F 11D5A-11D5F 11D66 11D69 11D8F 11D92",
  "11D99-11D9F 11DAA-11DAF 11DDC-11DDF 11DEA-11EDF 11EF9-11EFF 11F11 11F3B-11F3D 11F5B-11FAF",
  "11FB1-11FBF 11FF2-11FFE 1239A-123FF 1246F 12475-1247F 12544-12F8F 12FF3-12FFF 13430-1343F",
  "13456-1345F 143FB-143FF 14647-160FF 1613A-167FF 16A39-16A3F 16A5F 16A6A-16A6D 16ABF",
  "16ACA-16ACF 16AEE-16AEF 16AF6-16AFF 16B46-16B4F 16B5A 16B62 16B78-16B7C 16B90-16D3F",
  "16D7A-16E3F 16E9B-16E9F 16EB9-16EBA 16ED4-16EFF 16F4B-16F4E 16F88-16F8E 16FA0-16FDF",
  "16FE5-16FEF 16FF7-16FFF 18CD6-18CFE 18D1F-18D7F 18DF3-1AFEF 1AFF4 1AFFC 1AFFF 1B123-1B131",
  "1B133-1B14F 1B153-1B154 1B156-1B163 1B168-1B16F 1B2FC-1BBFF 1BC6B-1BC6F 1BC7D-1BC7F",
  "1BC89-1BC8F 1BC9A-1BC9B 1BCA4-1CBFF 1CCFD-1CCFF 1CEB4-1CEB9 1CED1-1CEDF 1CEF1-1CEFF",
  "1CF2E-1CF2F 1CF47-1CF4F 1CFC4-1CFFF 1D0F6-1D0FF 1D127-1D128 1D1EB-1D1FF 1D246-1D2BF",
  "1D2D4-1D2DF 1D2F4-1D2FF 1D357-1D35F 1D379-1D3FF 1D455 1D49D 1D4A0-1D4A1 1D4A3-1D4A4",
  "1D4A7-1D4A8 1D4AD 1D4BA 1D4BC 1D4C4 1D506 1D50B-1D50C 1D515 1D51D 1D53A 1D53F 1D545",
  "1D547-1D549 1D551 1D6A6-1D6A7 1D7CC-1D7CD 1DA8C-1DA9A 1DAA0 1DAB0-1DEFF 1DF1F-1DF24",
  "1DF2B-1DFFF 1E007 1E019-1E01A 1E022 1E025 1E02B-1E02F 1E06E-1E08E 1E090-1E0FF 1E12D-1E12F",
  "1E13E-1E13F 1E14A-1E14D 1E150-1E28F 1E2AF-1E2BF 1E2FA-1E2FE 1E300-1E4CF 1E4FA-1E5CF",
  "1E5FB-1E5FE 1E600-1E6BF 1E6DF 1E6F6-1E6FD 1E700-1E7DF 1E7E7 1E7EC 1E7EF 1E7FF 1E8C5-1E8C6",
  "1E8D7-1E8FF 1E94C-1E94F 1E95A-1E95D 1E960-1EC70 1ECB5-1ED00 1ED3E-1EDFF 1EE04 1EE20 1EE23",
  "1EE25-1EE26 1EE28 1EE33 1EE38 1EE3A 1EE3C-1EE41 1EE43-1EE46 1EE48 1EE4A 1EE4C 1EE50 1EE53",
  "1EE55-1EE56 1EE58 1EE5A 1EE5C 1EE5E 1EE60 1EE63 1EE65-1EE66 1EE6B 1EE73 1EE78 1EE7D 1EE7F",
  "1EE8A 1EE9C-1EEA0 1EEA4 1EEAA 1EEBC-1EEEF 1EEF2-1EFFF 1F02C-1F02F 1F094-1F09F 1F0AF-1F0B0",
  "1F0C0 1F0D0 1F0F6-1F100 1F1AE-1F1E5 1F203-1F20F 1F23C-1F23F 1F249-1F24F 1F252-1F25F",
  "1F266-1F2FF 1F6D9-1F6DB 1F6ED-1F6EF 1F6FD-1F6FF 1F7DA-1F7DF 1F7EC-1F7EF 1F7F1-1F7FF",
  "1F80C-1F80F 1F848-1F84F 1F85A-1F85F 1F888-1F88F 1F8AE-1F8AF 1F8BC-1F8BF 1F8C2-1F8CF",
  "1F8D9-1F8FF 1FA58-1FA5F 1FA6E-1FA6F 1FA7D-1FA7F 1FA8B-1FA8D 1FAC7 1FAC9-1FACC 1FADD-1FADE",
  "1FAEB-1FAEE 1FAF9-1FAFF 1FB93 1FBFB-1FFFF 2A6E0-2A6FF 2B81E-2B81F 2CEAE-2CEAF 2EBE1-2EBEF",
  "2EE5E-2F7FF 2FA1E-2FFFF 3134B-3134F 3347A-E00FF E01F0-10FFFF"]

def ignored : Text.Ranges := Text.Ranges.ofStrings [
  "AD 34F 115F-1160 17B4-17B5 180B-180F 200B 2060-2064 206A-206F 3164 FE00-FE0F FEFF FFA0",
  "1BCA0-1BCA3 1D173-1D17A E0100-E01EF"]

/-- What characters become: a code point and, after an equals sign, the text for it; after a colon,
the characters for it and for those that follow it; after a semicolon, the characters for it and for
each second one that follows it. -/
def mappingLines : List String := [
  "41:abcdefghijklmnopqrstuvwxyz§A0: §A8= ̈§AA:a§AF= ̄§B2:23§B4= ́§B5:μ§B8= ̧§B9:1o§BC=1⁄4§",
  "BD=1⁄2§BE=3⁄4§C0:àáâãäåæçèéêëìíîïðñòóôõö§D8:øùúûüýþ§100;āăąćĉċčďđēĕėęěĝğġģĥħĩīĭį§130=i̇§",
  "132=ij§133=ij§134;ĵķ§139;ĺļľ§13F=l·§140=l·§141;łńņň§149=ʼn§14A;ŋōŏőœŕŗřśŝşšţťŧũūŭůűųŵŷÿ§",
  "179;źżžsɓ§182;ƃƅɔ§187;ƈɖ§18A:ɗƌ§18E:ǝəɛƒ§193:ɠɣ§196:ɩɨƙ§19C:ɯɲ§19F:ɵơ§1A2;ƣƥʀ§1A7;ƨʃ§1AC;ƭʈ§",
  "1AF;ưʊ§1B2:ʋƴ§1B5;ƶʒ§1B8:ƹ§1BC:ƽ§1C4=dž§1C5=dž§1C6=dž§1C7=lj§1C8=lj§1C9=lj§1CA=nj§1CB=nj§",
  "1CC=nj§1CD;ǎǐǒǔǖǘǚǜ§1DE;ǟǡǣǥǧǩǫǭǯ§1F1=dz§1F2=dz§1F3=dz§1F4;ǵƕ§1F7:ƿǹ§",
  "1FA;ǻǽǿȁȃȅȇȉȋȍȏȑȓȕȗșțȝȟƞȣȥȧȩȫȭȯȱȳ§23A:ⱥȼ§23D:ƚⱦ§241;ɂƀ§244:ʉʌɇ§248;ɉɋɍɏ§2B0:hɦjrɹɻʁwy§2D8= ̆§",
  "2D9= ̇§2DA= ̊§2DB= ̨§2DC= ̃§2DD= ̋§2E0:ɣlsxʕ§340:̀́§343:̓§344=̈́§345:ι§370;ͱͳʹͷ§37A= ι§37E:;ϳ§",
  "384= ́§385= ̈́§386:ά·έήί§38C;όύ§38F;ώα§392:βγδεζηθικλμνξοπρ§3A3:στυφχψωϊϋ§3CF:ϗβθυύϋφπ§",
  "3D8;ϙϛϝϟϡϣϥϧϩϫϭϯκ§3F1:ρσ§3F4:θε§3F7;ϸσ§3FA:ϻ§",
  "3FD:ͻͼͽѐёђѓєѕіїјљњћќѝўџабвгдежзийклмнопрстуфхцчшщъыьэюя§460;ѡѣѥѧѩѫѭѯѱѳѵѷѹѻѽѿҁ§",
  "48A;ҋҍҏґғҕҗҙқҝҟҡңҥҧҩҫҭүұҳҵҷҹһҽҿӏ§4C1;ӂӄӆӈӊӌӎ§",
  "4D0;ӑӓӕӗәӛӝӟӡӣӥӧөӫӭӯӱӳӵӷӹӻӽӿԁԃԅԇԉԋԍԏԑԓԕԗԙԛԝԟԡԣԥԧԩԫԭԯ§",
  "531:աբգդեզէըթժիլխծկհձղճմյնշոչպջռսվտրցւփքօֆ§587=եւ§675=اٴ§676=وٴ§677=ۇٴ§678=يٴ§958=क़§959=ख़§",
  "95A=ग़§95B=ज़§95C=ड़§95D=ढ़§95E=फ़§95F=य़§9DC=ড়§9DD=ঢ়§9DF=য়§A33=ਲ਼§A36=ਸ਼§A59=ਖ਼§A5A=ਗ਼§",
  "A5B=ਜ਼§A5E=ਫ਼§B5C=ଡ଼§B5D=ଢ଼§E33=ํา§EB3=ໍາ§EDC=ຫນ§EDD=ຫມ§F0C:་§F43=གྷ§F4D=ཌྷ§F52=དྷ§F57=བྷ§",
  "F5C=ཛྷ§F69=ཀྵ§F73=ཱི§F75=ཱུ§F76=ྲྀ§F77=ྲཱྀ§F78=ླྀ§F79=ླཱྀ§F81=ཱྀ§F93=ྒྷ§F9D=ྜྷ§FA2=ྡྷ§FA7=ྦྷ§",
  "FAC=ྫྷ§FB9=ྐྵ§10A0:ⴀⴁⴂⴃⴄⴅⴆⴇⴈⴉⴊⴋⴌⴍⴎⴏⴐⴑⴒⴓⴔⴕⴖⴗⴘⴙⴚⴛⴜⴝⴞⴟⴠⴡⴢⴣⴤⴥ§10C7:ⴧ§10CD:ⴭ§10FC:ნ§13F8:ᏰᏱᏲᏳᏴᏵ§",
  "1C80:вдосттъѣꙋᲊ§1C90:აბგდევზთიკლმნოპჟრსტუფქღყშჩცძწჭხჯჰჱჲჳჴჵჶჷჸჹჺ§1CBD:ჽჾჿ§1D2C:aæb§",
  "1D30:deǝghijklmn§1D3C:oȣprtuwaɐɑᴂbdeəɛɜg§1D4F:kmŋoɔᴖᴗptuᴝɯvᴥβγδφχiruvβγρφχ§1D78:н§",
  "1D9B:ɒcɕðɜfɟɡɥɨɩɪᵻʝɭᶅʟɱɰɲɳɴɵɸʂʃƫʉʊᴜʋʌzʐʑʒθ§",
  "1E00;ḁḃḅḇḉḋḍḏḑḓḕḗḙḛḝḟḡḣḥḧḩḫḭḯḱḳḵḷḹḻḽḿṁṃṅṇṉṋṍṏṑṓṕṗṙṛṝṟṡṣṥṧṩṫṭṯṱṳṵṷ§1E78;ṹṻṽṿẁẃẅẇẉẋẍẏẑẓẕ§",
  "1E9A=aʾ§1E9B:ṡ§1E9E;ßạảấầẩẫậắằẳẵặẹẻẽếềểễệỉịọỏốồổỗộớờởỡợụủứừửữựỳỵỷỹỻỽỿ§1F08:ἀἁἂἃἄἅἆἇ§",
  "1F18:ἐἑἒἓἔἕ§1F28:ἠἡἢἣἤἥἦἧ§1F38:ἰἱἲἳἴἵἶἷ§1F48:ὀὁὂὃὄὅ§1F59;ὑὓὕὗ§1F68:ὠὡὢὣὤὥὦὧ§1F71;άέήίόύώ§",
  "1F80=ἀι§1F81=ἁι§1F82=ἂι§1F83=ἃι§1F84=ἄι§1F85=ἅι§1F86=ἆι§1F87=ἇι§1F88=ἀι§1F89=ἁι§1F8A=ἂι§",
  "1F8B=ἃι§1F8C=ἄι§1F8D=ἅι§1F8E=ἆι§1F8F=ἇι§1F90=ἠι§1F91=ἡι§1F92=ἢι§1F93=ἣι§1F94=ἤι§1F95=ἥι§",
  "1F96=ἦι§1F97=ἧι§1F98=ἠι§1F99=ἡι§1F9A=ἢι§1F9B=ἣι§1F9C=ἤι§1F9D=ἥι§1F9E=ἦι§1F9F=ἧι§1FA0=ὠι§",
  "1FA1=ὡι§1FA2=ὢι§1FA3=ὣι§1FA4=ὤι§1FA5=ὥι§1FA6=ὦι§1FA7=ὧι§1FA8=ὠι§1FA9=ὡι§1FAA=ὢι§1FAB=ὣι§",
  "1FAC=ὤι§1FAD=ὥι§1FAE=ὦι§1FAF=ὧι§1FB2=ὰι§1FB3=αι§1FB4=άι§1FB7=ᾶι§1FB8:ᾰᾱὰά§1FBC=αι§1FBD= ̓§",
  "1FBE:ι§1FBF= ̓§1FC0= ͂§1FC1= ̈͂§1FC2=ὴι§1FC3=ηι§1FC4=ήι§1FC7=ῆι§1FC8:ὲέὴή§1FCC=ηι§1FCD= ̓̀§",
  "1FCE= ̓́§1FCF= ̓͂§1FD3:ΐ§1FD8:ῐῑὶί§1FDD= ̔̀§1FDE= ̔́§1FDF= ̔͂§1FE3:ΰ§1FE8:ῠῡὺύῥ§1FED= ̈̀§",
  "1FEE= ̈́§1FEF:`§1FF2=ὼι§1FF3=ωι§1FF4=ώι§1FF7=ῶι§1FF8:ὸόὼώ§1FFC=ωι§1FFD= ́§1FFE= ̔§",
  "2000:           §2011:‐§2017= ̳§202F: §2033=′′§2034=′′′§2036=‵‵§2037=‵‵‵§203C=!!§203E= ̅§",
  "2047=??§2048=?!§2049=!?§2057=′′′′§205F: §2070:0i§2074:456789+−=()n0123456789+−=()§",
  "2090:aeoxəhklmnpst§20A8=rs§2100=a/c§2101=a/s§2102:c§2103=°c§2105=c/o§2106=c/u§2107:ɛ§2109=°f§",
  "210A:ghhhhħiill§2115:n§2116=no§2119:pqrrr§2120=sm§2121=tel§2122=tm§2124;zωzk§212B:åbc§",
  "212F:eefⅎmoאבגדi§213B=fax§213C:πγγπ∑§2145:ddeij§2150=1⁄7§2151=1⁄9§2152=1⁄10§2153=1⁄3§2154=2⁄3§",
  "2155=1⁄5§2156=2⁄5§2157=3⁄5§2158=4⁄5§2159=1⁄6§215A=5⁄6§215B=1⁄8§215C=3⁄8§215D=5⁄8§215E=7⁄8§",
  "215F=1⁄§2160:i§2161=ii§2162=iii§2163=iv§2164:v§2165=vi§2166=vii§2167=viii§2168=ix§2169:x§",
  "216A=xi§216B=xii§216C:lcdmi§2171=ii§2172=iii§2173=iv§2174:v§2175=vi§2176=vii§2177=viii§",
  "2178=ix§2179:x§217A=xi§217B=xii§217C:lcdm§2183:ↄ§2189=0⁄3§222C=∫∫§222D=∫∫∫§222F=∮∮§2230=∮∮∮§",
  "2329:〈〉§2460:123456789§2469=10§246A=11§246B=12§246C=13§246D=14§246E=15§246F=16§2470=17§",
  "2471=18§2472=19§2473=20§2474=(1)§2475=(2)§2476=(3)§2477=(4)§2478=(5)§2479=(6)§247A=(7)§",
  "247B=(8)§247C=(9)§247D=(10)§247E=(11)§247F=(12)§2480=(13)§2481=(14)§2482=(15)§2483=(16)§",
  "2484=(17)§2485=(18)§2486=(19)§2487=(20)§249C=(a)§249D=(b)§249E=(c)§249F=(d)§24A0=(e)§24A1=(f)§",
  "24A2=(g)§24A3=(h)§24A4=(i)§24A5=(j)§24A6=(k)§24A7=(l)§24A8=(m)§24A9=(n)§24AA=(o)§24AB=(p)§",
  "24AC=(q)§24AD=(r)§24AE=(s)§24AF=(t)§24B0=(u)§24B1=(v)§24B2=(w)§24B3=(x)§24B4=(y)§24B5=(z)§",
  "24B6:abcdefghijklmnopqrstuvwxyzabcdefghijklmnopqrstuvwxyz0§2A0C=∫∫∫∫§2A74=::=§2A75===§",
  "2A76====§2ADC=⫝̸§2C00:ⰰⰱⰲⰳⰴⰵⰶⰷⰸⰹⰺⰻⰼⰽⰾⰿⱀⱁⱂⱃⱄⱅⱆⱇⱈⱉⱊⱋⱌⱍⱎⱏⱐⱑⱒⱓⱔⱕⱖⱗⱘⱙⱚⱛⱜⱝⱞⱟ§2C60;ⱡɫ§2C63:ᵽɽ§",
  "2C67;ⱨⱪⱬɑ§2C6E:ɱɐɒ§2C72:ⱳ§2C75:ⱶ§2C7C:jvȿɀⲁ§",
  "2C82;ⲃⲅⲇⲉⲋⲍⲏⲑⲓⲕⲗⲙⲛⲝⲟⲡⲣⲥⲧⲩⲫⲭⲯⲱⲳⲵⲷⲹⲻⲽⲿⳁⳃⳅⳇⳉⳋⳍⳏⳑⳓⳕⳗⳙⳛⳝⳟⳡⳣ§2CEB;ⳬⳮ§2CF2:ⳳ§2D6F:ⵡ§2E9F:母§2EF3:龟§",
  "2F00:一丨丶丿乙亅二亠人儿入八冂冖冫几凵刀力勹匕匚匸十卜卩厂厶又口囗土士夂夊夕大女子宀寸小尢尸屮山巛工己巾干幺广廴廾弋弓彐彡彳§",
  "2F3C:心戈戶手支攴文斗斤方无日曰月木欠止歹殳毋比毛氏气水火爪父爻爿片牙牛犬玄玉瓜瓦甘生用田疋疒癶白皮皿目矛矢石示禸禾穴立竹米糸§",
  "2F78:缶网羊羽老而耒耳聿肉臣自至臼舌舛舟艮色艸虍虫血行衣襾見角言谷豆豕豸貝赤走足身車辛辰辵邑酉釆里金長門阜隶隹雨靑非面革韋韭音§",
  "2FB4:頁風飛食首香馬骨高髟鬥鬯鬲鬼魚鳥鹵鹿麥麻黃黍黑黹黽鼎鼓鼠鼻齊齒龍龜龠§3000; .§3036;〒十§3039:卄卅§309B= ゙§309C= ゚§309F=より§",
  "30FF=コト§3131:ᄀᄁᆪᄂᆬᆭᄃᄄᄅᆰᆱᆲᆳᆴᆵᄚᄆᄇᄈᄡᄉᄊᄋᄌᄍᄎᄏᄐᄑ하ᅢᅣᅤᅥᅦᅧᅨᅩᅪᅫᅬᅭᅮᅯᅰᅱᅲᅳᅴᅵ§",
  "3165:ᄔᄕᇇᇈᇌᇎᇓᇗᇙᄜᇝᇟᄝᄞᄠᄢᄣᄧᄩᄫᄬᄭᄮᄯᄲᄶᅀᅇᅌᇱᇲᅗᅘᅙᆄᆅᆈᆑᆒᆔᆞᆡ§3192:一二三四上中下甲乙丙丁天地人§3200=(ᄀ)§3201=(ᄂ)§",
  "3202=(ᄃ)§3203=(ᄅ)§3204=(ᄆ)§3205=(ᄇ)§3206=(ᄉ)§3207=(ᄋ)§3208=(ᄌ)§3209=(ᄎ)§320A=(ᄏ)§320B=(ᄐ)§",
  "320C=(ᄑ)§320D=(ᄒ)§320E=(가)§320F=(나)§3210=(다)§3211=(라)§3212=(마)§3213=(바)§3214=(사)§3215=(아)§",
  "3216=(자)§3217=(차)§3218=(카)§3219=(타)§321A=(파)§321B=(하)§321C=(주)§321D=(오전)§321E=(오후)§3220=(一)§",
  "3221=(二)§3222=(三)§3223=(四)§3224=(五)§3225=(六)§3226=(七)§3227=(八)§3228=(九)§3229=(十)§322A=(月)§",
  "322B=(火)§322C=(水)§322D=(木)§322E=(金)§322F=(土)§3230=(日)§3231=(株)§3232=(有)§3233=(社)§3234=(名)§",
  "3235=(特)§3236=(財)§3237=(祝)§3238=(労)§3239=(代)§323A=(呼)§323B=(学)§323C=(監)§323D=(企)§323E=(資)§",
  "323F=(協)§3240=(祭)§3241=(休)§3242=(自)§3243=(至)§3244:問幼文箏§3250=pte§3251=21§3252=22§3253=23§",
  "3254=24§3255=25§3256=26§3257=27§3258=28§3259=29§325A=30§325B=31§325C=32§325D=33§325E=34§",
  "325F=35§3260:ᄀᄂᄃᄅᄆᄇᄉᄋᄌᄎᄏᄐᄑᄒ가나다라마바사아자차카타파하§327C=참고§327D=주의§327E;우一§",
  "3281:二三四五六七八九十月火水木金土日株有社名特財祝労秘男女適優印注項休写正上中下左右医宗学監企資協夜§32B1=36§32B2=37§32B3=38§32B4=39§32B5=40§",
  "32B6=41§32B7=42§32B8=43§32B9=44§32BA=45§32BB=46§32BC=47§32BD=48§32BE=49§32BF=50§32C0=1月§",
  "32C1=2月§32C2=3月§32C3=4月§32C4=5月§32C5=6月§32C6=7月§32C7=8月§32C8=9月§32C9=10月§32CA=11月§32CB=12月§",
  "32CC=hg§32CD=erg§32CE=ev§32CF=ltd§32D0:アイウエオカキクケコサシスセソタチツテトナニヌネノハヒフヘホマミムメモヤユヨラリルレロワヰヱヲ§",
  "32FF=令和§3300=アパート§3301=アルファ§3302=アンペア§3303=アール§3304=イニング§3305=インチ§3306=ウォン§3307=エスクード§",
  "3308=エーカー§3309=オンス§330A=オーム§330B=カイリ§330C=カラット§330D=カロリー§330E=ガロン§330F=ガンマ§3310=ギガ§3311=ギニー§",
  "3312=キュリー§3313=ギルダー§3314=キロ§3315=キログラム§3316=キロメートル§3317=キロワット§3318=グラム§3319=グラムトン§331A=クルゼイロ§",
  "331B=クローネ§331C=ケース§331D=コルナ§331E=コーポ§331F=サイクル§3320=サンチーム§3321=シリング§3322=センチ§3323=セント§",
  "3324=ダース§3325=デシ§3326=ドル§3327=トン§3328=ナノ§3329=ノット§332A=ハイツ§332B=パーセント§332C=パーツ§332D=バーレル§",
  "332E=ピアストル§332F=ピクル§3330=ピコ§3331=ビル§3332=ファラッド§3333=フィート§3334=ブッシェル§3335=フラン§3336=ヘクタール§",
  "3337=ペソ§3338=ペニヒ§3339=ヘルツ§333A=ペンス§333B=ページ§333C=ベータ§333D=ポイント§333E=ボルト§333F=ホン§3340=ポンド§",
  "3341=ホール§3342=ホーン§3343=マイクロ§3344=マイル§3345=マッハ§3346=マルク§3347=マンション§3348=ミクロン§3349=ミリ§",
  "334A=ミリバール§334B=メガ§334C=メガトン§334D=メートル§334E=ヤード§334F=ヤール§3350=ユアン§3351=リットル§3352=リラ§3353=ルピー§",
  "3354=ルーブル§3355=レム§3356=レントゲン§3357=ワット§3358=0点§3359=1点§335A=2点§335B=3点§335C=4点§335D=5点§335E=6点§",
  "335F=7点§3360=8点§3361=9点§3362=10点§3363=11点§3364=12点§3365=13点§3366=14点§3367=15点§3368=16点§",
  "3369=17点§336A=18点§336B=19点§336C=20点§336D=21点§336E=22点§336F=23点§3370=24点§3371=hpa§3372=da§",
  "3373=au§3374=bar§3375=ov§3376=pc§3377=dm§3378=dm2§3379=dm3§337A=iu§337B=平成§337C=昭和§337D=大正§",
  "337E=明治§337F=株式会社§3380=pa§3381=na§3382=μa§3383=ma§3384=ka§3385=kb§3386=mb§3387=gb§3388=cal§",
  "3389=kcal§338A=pf§338B=nf§338C=μf§338D=μg§338E=mg§338F=kg§3390=hz§3391=khz§3392=mhz§3393=ghz§",
  "3394=thz§3395=μl§3396=ml§3397=dl§3398=kl§3399=fm§339A=nm§339B=μm§339C=mm§339D=cm§339E=km§",
  "339F=mm2§33A0=cm2§33A1=m2§33A2=km2§33A3=mm3§33A4=cm3§33A5=m3§33A6=km3§33A7=m∕s§33A8=m∕s2§",
  "33A9=pa§33AA=kpa§33AB=mpa§33AC=gpa§33AD=rad§33AE=rad∕s§33AF=rad∕s2§33B0=ps§33B1=ns§33B2=μs§",
  "33B3=ms§33B4=pv§33B5=nv§33B6=μv§33B7=mv§33B8=kv§33B9=mv§33BA=pw§33BB=nw§33BC=μw§33BD=mw§",
  "33BE=kw§33BF=mw§33C0=kω§33C1=mω§33C3=bq§33C4=cc§33C5=cd§33C6=c∕kg§33C8=db§33C9=gy§33CA=ha§",
  "33CB=hp§33CC=in§33CD=kk§33CE=km§33CF=kt§33D0=lm§33D1=ln§33D2=log§33D3=lx§33D4=mb§33D5=mil§",
  "33D6=mol§33D7=ph§33D9=ppm§33DA=pr§33DB=sr§33DC=sv§33DD=wb§33DE=v∕m§33DF=a∕m§33E0=1日§33E1=2日§",
  "33E2=3日§33E3=4日§33E4=5日§33E5=6日§33E6=7日§33E7=8日§33E8=9日§33E9=10日§33EA=11日§33EB=12日§33EC=13日§",
  "33ED=14日§33EE=15日§33EF=16日§33F0=17日§33F1=18日§33F2=19日§33F3=20日§33F4=21日§33F5=22日§33F6=23日§",
  "33F7=24日§33F8=25日§33F9=26日§33FA=27日§33FB=28日§33FC=29日§33FD=30日§33FE=31日§33FF=gal§",
  "A640;ꙁꙃꙅꙇꙉꙋꙍꙏꙑꙓꙕꙗꙙꙛꙝꙟꙡꙣꙥꙧꙩꙫꙭ§A680;ꚁꚃꚅꚇꚉꚋꚍꚏꚑꚓꚕꚗꚙꚛъ§A69D:ь§A722;ꜣꜥꜧꜩꜫꜭꜯ§",
  "A732;ꜳꜵꜷꜹꜻꜽꜿꝁꝃꝅꝇꝉꝋꝍꝏꝑꝓꝕꝗꝙꝛꝝꝟꝡꝣꝥꝧꝩꝫꝭꝯꝯ§A779;ꝺꝼᵹ§A77E;ꝿꞁꞃꞅꞇ§A78B;ꞌɥ§A790;ꞑꞓ§A796;ꞗꞙꞛꞝꞟꞡꞣꞥꞧꞩɦ§",
  "A7AB:ɜɡɬɪ§A7B0:ʞʇʝꭓꞵ§A7B6;ꞷꞹꞻꞽꞿꟁꟃꞔ§A7C5:ʂᶎꟈ§A7C9;ꟊɤ§A7CC;ꟍ꟏ꟑꟓꟕꟗꟙꟛƛ§A7F1:scfqꟶ§A7F8:ħœ§",
  "AB5C:ꜧꬷɫꭒ§AB69:ʍ§AB70:ᎠᎡᎢᎣᎤᎥᎦᎧᎨᎩᎪᎫᎬᎭᎮᎯᎰᎱᎲᎳᎴᎵᎶᎷᎸᎹᎺᎻᎼᎽᎾᎿᏀᏁᏂᏃᏄᏅᏆᏇᏈᏉᏊᏋᏌᏍᏎᏏᏐᏑᏒᏓᏔᏕᏖᏗᏘᏙᏚᏛ§",
  "ABAC:ᏜᏝᏞᏟᏠᏡᏢᏣᏤᏥᏦᏧᏨᏩᏪᏫᏬᏭᏮᏯ§F900:豈更車賈滑串句龜龜契金喇奈懶癩羅蘿螺裸邏樂洛烙珞落酪駱亂卵欄爛蘭鸞嵐濫藍襤拉臘蠟廊朗浪狼郎來冷勞擄櫓爐盧老蘆虜路露魯鷺碌§",
  "F93C:祿綠菉錄鹿論壟弄籠聾牢磊賂雷壘屢樓淚漏累縷陋勒肋凜凌稜綾菱陵讀拏樂諾丹寧怒率異北磻便復不泌數索參塞省葉說殺辰沈拾若掠略亮§",
  "F978:兩凉梁糧良諒量勵呂女廬旅濾礪閭驪麗黎力曆歷轢年憐戀撚漣煉璉秊練聯輦蓮連鍊列劣咽烈裂說廉念捻殮簾獵令囹寧嶺怜玲瑩羚聆鈴零靈§",
  "F9B4:領例禮醴隸惡了僚寮尿料樂燎療蓼遼龍暈阮劉杻柳流溜琉留硫紐類六戮陸倫崙淪輪律慄栗率隆利吏履易李梨泥理痢罹裏裡里離匿溺吝燐璘§",
  "F9F0:藺隣鱗麟林淋臨立笠粒狀炙識什茶刺切度拓糖宅洞暴輻行降見廓兀嗀§FA10;塚晴§FA15:凞猪益礼神祥福靖精羽§FA20;蘒諸§FA25:逸都§",
  "FA2A:飯飼館鶴郞隷侮僧免勉勤卑喝嘆器塀墨層屮悔慨憎懲敏既暑梅海渚漢煮爫琢碑社祉祈祐祖祝禍禎穀突節練縉繁署者臭艹艹著褐視謁謹賓贈§FA66:辶逸難響頻恵𤋮舘§",
  "FA70:並况全侀充冀勇勺喝啕喙嗢塚墳奄奔婢嬨廒廙彩徭惘慎愈憎慠懲戴揄搜摒敖晴朗望杖歹殺流滛滋漢瀞煮瞧爵犯猪瑱甆画瘝瘟益盛直睊着磌§",
  "FAAC:窱節类絛練缾者荒華蝹襁覆視調諸請謁諾諭謹變贈輸遲醙鉶陼難靖韛響頋頻鬒龜𢡊𢡄𣏕㮝䀘䀹𥉉𥳐𧻓齃龎§FB00=ff§FB01=fi§FB02=fl§FB03=ffi§FB04=ffl§",
  "FB05=st§FB06=st§FB13=մն§FB14=մե§FB15=մի§FB16=վն§FB17=մխ§FB1D=יִ§FB1F=ײַ§FB20:עאדהכלםרת+§",
  "FB2A=שׁ§FB2B=שׂ§FB2C=שּׁ§FB2D=שּׂ§FB2E=אַ§FB2F=אָ§FB30=אּ§FB31=בּ§FB32=גּ§FB33=דּ§FB34=הּ§",
  "FB35=וּ§FB36=זּ§FB38=טּ§FB39=יּ§FB3A=ךּ§FB3B=כּ§FB3C=לּ§FB3E=מּ§FB40=נּ§FB41=סּ§FB43=ףּ§",
  "FB44=פּ§FB46=צּ§FB47=קּ§FB48=רּ§FB49=שּ§FB4A=תּ§FB4B=וֹ§FB4C=בֿ§FB4D=כֿ§FB4E=פֿ§FB4F=אל§",
  "FB50:ٱٱٻٻٻٻپپپپڀڀڀڀٺٺٺٺٿٿٿٿٹٹٹٹڤڤڤڤڦڦڦڦڄڄڄڄڃڃڃڃچچچچڇڇڇڇڍڍڌڌڎڎڈڈژژ§",
  "FB8C:ڑڑککککگگگگڳڳڳڳڱڱڱڱںںڻڻڻڻۀۀہہہہھھھھےےۓۓ§FBD3:ڭڭڭڭۇۇۆۆۈۈ§FBDD=ۇٴ§FBDE:ۋۋۅۅۉۉېېېېىى§FBEA=ئا§",
  "FBEB=ئا§FBEC=ئە§FBED=ئە§FBEE=ئو§FBEF=ئو§FBF0=ئۇ§FBF1=ئۇ§FBF2=ئۆ§FBF3=ئۆ§FBF4=ئۈ§FBF5=ئۈ§",
  "FBF6=ئې§FBF7=ئې§FBF8=ئې§FBF9=ئى§FBFA=ئى§FBFB=ئى§FBFC:یییی§FC00=ئج§FC01=ئح§FC02=ئم§FC03=ئى§",
  "FC04=ئي§FC05=بج§FC06=بح§FC07=بخ§FC08=بم§FC09=بى§FC0A=بي§FC0B=تج§FC0C=تح§FC0D=تخ§FC0E=تم§",
  "FC0F=تى§FC10=تي§FC11=ثج§FC12=ثم§FC13=ثى§FC14=ثي§FC15=جح§FC16=جم§FC17=حج§FC18=حم§FC19=خج§",
  "FC1A=خح§FC1B=خم§FC1C=سج§FC1D=سح§FC1E=سخ§FC1F=سم§FC20=صح§FC21=صم§FC22=ضج§FC23=ضح§FC24=ضخ§",
  "FC25=ضم§FC26=طح§FC27=طم§FC28=ظم§FC29=عج§FC2A=عم§FC2B=غج§FC2C=غم§FC2D=فج§FC2E=فح§FC2F=فخ§",
  "FC30=فم§FC31=فى§FC32=في§FC33=قح§FC34=قم§FC35=قى§FC36=قي§FC37=كا§FC38=كج§FC39=كح§FC3A=كخ§",
  "FC3B=كل§FC3C=كم§FC3D=كى§FC3E=كي§FC3F=لج§FC40=لح§FC41=لخ§FC42=لم§FC43=لى§FC44=لي§FC45=مج§",
  "FC46=مح§FC47=مخ§FC48=مم§FC49=مى§FC4A=مي§FC4B=نج§FC4C=نح§FC4D=نخ§FC4E=نم§FC4F=نى§FC50=ني§",
  "FC51=هج§FC52=هم§FC53=هى§FC54=هي§FC55=يج§FC56=يح§FC57=يخ§FC58=يم§FC59=يى§FC5A=يي§FC5B=ذٰ§",
  "FC5C=رٰ§FC5D=ىٰ§FC5E= ٌّ§FC5F= ٍّ§FC60= َّ§FC61= ُّ§FC62= ِّ§FC63= ّٰ§FC64=ئر§FC65=ئز§FC66=ئم§",
  "FC67=ئن§FC68=ئى§FC69=ئي§FC6A=بر§FC6B=بز§FC6C=بم§FC6D=بن§FC6E=بى§FC6F=بي§FC70=تر§FC71=تز§",
  "FC72=تم§FC73=تن§FC74=تى§FC75=تي§FC76=ثر§FC77=ثز§FC78=ثم§FC79=ثن§FC7A=ثى§FC7B=ثي§FC7C=فى§",
  "FC7D=في§FC7E=قى§FC7F=قي§FC80=كا§FC81=كل§FC82=كم§FC83=كى§FC84=كي§FC85=لم§FC86=لى§FC87=لي§",
  "FC88=ما§FC89=مم§FC8A=نر§FC8B=نز§FC8C=نم§FC8D=نن§FC8E=نى§FC8F=ني§FC90=ىٰ§FC91=ير§FC92=يز§",
  "FC93=يم§FC94=ين§FC95=يى§FC96=يي§FC97=ئج§FC98=ئح§FC99=ئخ§FC9A=ئم§FC9B=ئه§FC9C=بج§FC9D=بح§",
  "FC9E=بخ§FC9F=بم§FCA0=به§FCA1=تج§FCA2=تح§FCA3=تخ§FCA4=تم§FCA5=ته§FCA6=ثم§FCA7=جح§FCA8=جم§",
  "FCA9=حج§FCAA=حم§FCAB=خج§FCAC=خم§FCAD=سج§FCAE=سح§FCAF=سخ§FCB0=سم§FCB1=صح§FCB2=صخ§FCB3=صم§",
  "FCB4=ضج§FCB5=ضح§FCB6=ضخ§FCB7=ضم§FCB8=طح§FCB9=ظم§FCBA=عج§FCBB=عم§FCBC=غج§FCBD=غم§FCBE=فج§",
  "FCBF=فح§FCC0=فخ§FCC1=فم§FCC2=قح§FCC3=قم§FCC4=كج§FCC5=كح§FCC6=كخ§FCC7=كل§FCC8=كم§FCC9=لج§",
  "FCCA=لح§FCCB=لخ§FCCC=لم§FCCD=له§FCCE=مج§FCCF=مح§FCD0=مخ§FCD1=مم§FCD2=نج§FCD3=نح§FCD4=نخ§",
  "FCD5=نم§FCD6=نه§FCD7=هج§FCD8=هم§FCD9=هٰ§FCDA=يج§FCDB=يح§FCDC=يخ§FCDD=يم§FCDE=يه§FCDF=ئم§",
  "FCE0=ئه§FCE1=بم§FCE2=به§FCE3=تم§FCE4=ته§FCE5=ثم§FCE6=ثه§FCE7=سم§FCE8=سه§FCE9=شم§FCEA=شه§",
  "FCEB=كل§FCEC=كم§FCED=لم§FCEE=نم§FCEF=نه§FCF0=يم§FCF1=يه§FCF2=ـَّ§FCF3=ـُّ§FCF4=ـِّ§FCF5=طى§",
  "FCF6=طي§FCF7=عى§FCF8=عي§FCF9=غى§FCFA=غي§FCFB=سى§FCFC=سي§FCFD=شى§FCFE=شي§FCFF=حى§FD00=حي§",
  "FD01=جى§FD02=جي§FD03=خى§FD04=خي§FD05=صى§FD06=صي§FD07=ضى§FD08=ضي§FD09=شج§FD0A=شح§FD0B=شخ§",
  "FD0C=شم§FD0D=شر§FD0E=سر§FD0F=صر§FD10=ضر§FD11=طى§FD12=طي§FD13=عى§FD14=عي§FD15=غى§FD16=غي§",
  "FD17=سى§FD18=سي§FD19=شى§FD1A=شي§FD1B=حى§FD1C=حي§FD1D=جى§FD1E=جي§FD1F=خى§FD20=خي§FD21=صى§",
  "FD22=صي§FD23=ضى§FD24=ضي§FD25=شج§FD26=شح§FD27=شخ§FD28=شم§FD29=شر§FD2A=سر§FD2B=صر§FD2C=ضر§",
  "FD2D=شج§FD2E=شح§FD2F=شخ§FD30=شم§FD31=سه§FD32=شه§FD33=طم§FD34=سج§FD35=سح§FD36=سخ§FD37=شج§",
  "FD38=شح§FD39=شخ§FD3A=طم§FD3B=ظم§FD3C=اً§FD3D=اً§FD50=تجم§FD51=تحج§FD52=تحج§FD53=تحم§FD54=تخم§",
  "FD55=تمج§FD56=تمح§FD57=تمخ§FD58=جمح§FD59=جمح§FD5A=حمي§FD5B=حمى§FD5C=سحج§FD5D=سجح§FD5E=سجى§",
  "FD5F=سمح§FD60=سمح§FD61=سمج§FD62=سمم§FD63=سمم§FD64=صحح§FD65=صحح§FD66=صمم§FD67=شحم§FD68=شحم§",
  "FD69=شجي§FD6A=شمخ§FD6B=شمخ§FD6C=شمم§FD6D=شمم§FD6E=ضحى§FD6F=ضخم§FD70=ضخم§FD71=طمح§FD72=طمح§",
  "FD73=طمم§FD74=طمي§FD75=عجم§FD76=عمم§FD77=عمم§FD78=عمى§FD79=غمم§FD7A=غمي§FD7B=غمى§FD7C=فخم§",
  "FD7D=فخم§FD7E=قمح§FD7F=قمم§FD80=لحم§FD81=لحي§FD82=لحى§FD83=لجج§FD84=لجج§FD85=لخم§FD86=لخم§",
  "FD87=لمح§FD88=لمح§FD89=محج§FD8A=محم§FD8B=محي§FD8C=مجح§FD8D=مجم§FD8E=مخج§FD8F=مخم§FD92=مجخ§",
  "FD93=همج§FD94=همم§FD95=نحم§FD96=نحى§FD97=نجم§FD98=نجم§FD99=نجى§FD9A=نمي§FD9B=نمى§FD9C=يمم§",
  "FD9D=يمم§FD9E=بخي§FD9F=تجي§FDA0=تجى§FDA1=تخي§FDA2=تخى§FDA3=تمي§FDA4=تمى§FDA5=جمي§FDA6=جحى§",
  "FDA7=جمى§FDA8=سخى§FDA9=صحي§FDAA=شحي§FDAB=ضحي§FDAC=لجي§FDAD=لمي§FDAE=يحي§FDAF=يجي§FDB0=يمي§",
  "FDB1=ممي§FDB2=قمي§FDB3=نحي§FDB4=قمح§FDB5=لحم§FDB6=عمي§FDB7=كمي§FDB8=نجح§FDB9=مخي§FDBA=لجم§",
  "FDBB=كمم§FDBC=لجم§FDBD=نجح§FDBE=جحي§FDBF=حجي§FDC0=مجي§FDC1=فمي§FDC2=بحي§FDC3=كمم§FDC4=عجم§",
  "FDC5=صمم§FDC6=سخي§FDC7=نجي§FDF0=صلے§FDF1=قلے§FDF2=الله§FDF3=اكبر§FDF4=محمد§FDF5=صلعم§",
  "FDF6=رسول§FDF7=عليه§FDF8=وسلم§FDF9=صلى§FDFA=صلى الله عليه وسلم§FDFB=جل جلاله§FDFC=ریال§",
  "FE10:,、§FE13::;!?〖〗§FE31:—–__()\x7b\x7d〔〕【】《》〈〉「」『』§FE47:[]§FE49= ̅§FE4A= ̅§FE4B= ̅§FE4C= ̅§",
  "FE4D:___,、§FE54:;:?!—()\x7b\x7d〔〕#&*+-<>=§FE68:\\$%@§FE70= ً§FE71=ـً§FE72= ٌ§FE74= ٍ§FE76= َ§",
  "FE77=ـَ§FE78= ُ§FE79=ـُ§FE7A= ِ§FE7B=ـِ§FE7C= ّ§FE7D=ـّ§FE7E= ْ§FE7F=ـْ§",
  "FE80:ءآآأأؤؤإإئئئئااببببةةتتتتثثثثججججححححخخخخددذذررززسسسسششششصصص§",
  "FEBC:صضضضضططططظظظظععععغغغغففففققققككككللللممممننننههههووىىيييي§FEF5=لآ§FEF6=لآ§FEF7=لأ§",
  "FEF8=لأ§FEF9=لإ§FEFA=لإ§FEFB=لا§FEFC=لا§",
  "FF01:!\"#$%&'()*+,-./0123456789:;<=>?@abcdefghijklmnopqrstuvwxyz[\\§",
  "FF3D:]^_`abcdefghijklmnopqrstuvwxyz\x7b|\x7d~⦅⦆.「」、・ヲァィゥェォャュョッーアイウエオカキク§",
  "FF79:ケコサシスセソタチツテトナニヌネノハヒフヘホマミムメモヤユヨラリルレロワン゙゚§FFA1:ᄀᄁᆪᄂᆬᆭᄃᄄᄅᆰᆱᆲᆳᆴᆵᄚᄆᄇᄈᄡᄉᄊᄋᄌᄍᄎᄏᄐᄑᄒ§FFC2:ᅡᅢᅣᅤᅥᅦ§",
  "FFCA:ᅧᅨᅩᅪᅫᅬ§FFD2:ᅭᅮᅯᅰᅱᅲ§FFDA:ᅳᅴᅵ§FFE0:¢£¬§FFE3= ̄§FFE4:¦¥₩§FFE8:│←↑→↓■○§",
  "10400:𐐨𐐩𐐪𐐫𐐬𐐭𐐮𐐯𐐰𐐱𐐲𐐳𐐴𐐵𐐶𐐷𐐸𐐹𐐺𐐻𐐼𐐽𐐾𐐿𐑀𐑁𐑂𐑃𐑄𐑅𐑆𐑇𐑈𐑉𐑊𐑋𐑌𐑍𐑎𐑏§104B0:𐓘𐓙𐓚𐓛𐓜𐓝𐓞𐓟𐓠𐓡𐓢𐓣𐓤𐓥𐓦𐓧𐓨𐓩𐓪𐓫𐓬𐓭𐓮𐓯𐓰𐓱𐓲𐓳𐓴𐓵𐓶𐓷𐓸𐓹𐓺𐓻§",
  "10570:𐖗𐖘𐖙𐖚𐖛𐖜𐖝𐖞𐖟𐖠𐖡§1057C:𐖣𐖤𐖥𐖦𐖧𐖨𐖩𐖪𐖫𐖬𐖭𐖮𐖯𐖰𐖱§1058C:𐖳𐖴𐖵𐖶𐖷𐖸𐖹§10594:𐖻𐖼§10781:ːˑæʙɓ§",
  "10787:ʣꭦʥʤɖɗᶑɘɞʩɤɢɠʛħʜɧʄʪʫɬ𝼄ꞎɮ𝼅ʎ𝼆øɶɷqɺ𝼈ɽɾʀʨʦꭧʧʈⱱ§107B2:ʏʡʢʘǀǁǂ𝼊𝼞§",
  "10C80:𐳀𐳁𐳂𐳃𐳄𐳅𐳆𐳇𐳈𐳉𐳊𐳋𐳌𐳍𐳎𐳏𐳐𐳑𐳒𐳓𐳔𐳕𐳖𐳗𐳘𐳙𐳚𐳛𐳜𐳝𐳞𐳟𐳠𐳡𐳢𐳣𐳤𐳥𐳦𐳧𐳨𐳩𐳪𐳫𐳬𐳭𐳮𐳯𐳰𐳱𐳲§10D50:𐵰𐵱𐵲𐵳𐵴𐵵𐵶𐵷𐵸𐵹𐵺𐵻𐵼𐵽𐵾𐵿𐶀𐶁𐶂𐶃𐶄𐶅§",
  "118A0:𑣀𑣁𑣂𑣃𑣄𑣅𑣆𑣇𑣈𑣉𑣊𑣋𑣌𑣍𑣎𑣏𑣐𑣑𑣒𑣓𑣔𑣕𑣖𑣗𑣘𑣙𑣚𑣛𑣜𑣝𑣞𑣟§16E40:𖹠𖹡𖹢𖹣𖹤𖹥𖹦𖹧𖹨𖹩𖹪𖹫𖹬𖹭𖹮𖹯𖹰𖹱𖹲𖹳𖹴𖹵𖹶𖹷𖹸𖹹𖹺𖹻𖹼𖹽𖹾𖹿§",
  "16EA0:𖺻𖺼𖺽𖺾𖺿𖻀𖻁𖻂𖻃𖻄𖻅𖻆𖻇𖻈𖻉𖻊𖻋𖻌𖻍𖻎𖻏𖻐𖻑𖻒𖻓§1CCD6:abcdefghijklmnopqrstuvwxyz0123456789§1D15E=𝅗𝅥§1D15F=𝅘𝅥§",
  "1D160=𝅘𝅥𝅮§1D161=𝅘𝅥𝅯§1D162=𝅘𝅥𝅰§1D163=𝅘𝅥𝅱§1D164=𝅘𝅥𝅲§1D1BB=𝆹𝅥§1D1BC=𝆺𝅥§1D1BD=𝆹𝅥𝅮§1D1BE=𝆺𝅥𝅮§",
  "1D1BF=𝆹𝅥𝅯§1D1C0=𝆺𝅥𝅯§1D400:abcdefghijklmnopqrstuvwxyzabcdefghijklmnopqrstuvwxyzabcdefgh§",
  "1D43C:ijklmnopqrstuvwxyzabcdefg§",
  "1D456:ijklmnopqrstuvwxyzabcdefghijklmnopqrstuvwxyzabcdefghijklmnop§1D492:qrstuvwxyza§1D49E:cd§",
  "1D4A2:g§1D4A5:jk§1D4A9:nopq§1D4AE:stuvwxyzabcd§1D4BB;fh§1D4BE:ijklmn§",
  "1D4C5:pqrstuvwxyzabcdefghijklmnopqrstuvwxyzabcdefghijklmnopqrstuvw§1D501:xyzab§1D507:defg§",
  "1D50D:jklmnopq§1D516:stuvwxy§1D51E:abcdefghijklmnopqrstuvwxyzab§1D53B:defg§1D540:ijklm§",
  "1D546:o§1D54A:stuvwxy§1D552:abcdefghijklmnopqrstuvwxyzabcdefghijklmnopqrstuvwxyzabcdefgh§",
  "1D58E:ijklmnopqrstuvwxyzabcdefghijklmnopqrstuvwxyzabcdefghijklmnop§",
  "1D5CA:qrstuvwxyzabcdefghijklmnopqrstuvwxyzabcdefghijklmnopqrstuvwx§",
  "1D606:yzabcdefghijklmnopqrstuvwxyzabcdefghijklmnopqrstuvwxyzabcdef§",
  "1D642:ghijklmnopqrstuvwxyzabcdefghijklmnopqrstuvwxyzabcdefghijklmn§",
  "1D67E:opqrstuvwxyzabcdefghijklmnopqrstuvwxyzıȷ§",
  "1D6A8:αβγδεζηθικλμνξοπρθστυφχψω∇αβγδεζηθικλμνξοπρσστυφχψω∂εθκφρπαβ§",
  "1D6E4:γδεζηθικλμνξοπρθστυφχψω∇αβγδεζηθικλμνξοπρσστυφχψω∂εθκφρπαβγδ§",
  "1D720:εζηθικλμνξοπρθστυφχψω∇αβγδεζηθικλμνξοπρσστυφχψω∂εθκφρπαβγδεζ§",
  "1D75C:ηθικλμνξοπρθστυφχψω∇αβγδεζηθικλμνξοπρσστυφχψω∂εθκφρπαβγδεζηθ§",
  "1D798:ικλμνξοπρθστυφχψω∇αβγδεζηθικλμνξοπρσστυφχψω∂εθκφρπϝϝ§",
  "1D7CE:01234567890123456789012345678901234567890123456789§",
  "1E030:абвгдежзиклмопрстуфхцчшыэюꚉәіјөүӏабвгдежзиклопсуфхцчшъыґіѕџҫ§1E06C:ꙑұ§",
  "1E900:𞤢𞤣𞤤𞤥𞤦𞤧𞤨𞤩𞤪𞤫𞤬𞤭𞤮𞤯𞤰𞤱𞤲𞤳𞤴𞤵𞤶𞤷𞤸𞤹𞤺𞤻𞤼𞤽𞤾𞤿𞥀𞥁𞥂𞥃§1EE00:ابجد§1EE05:وزحطيكلمنسعفصقرشتثخذضظغٮںڡٯ§",
  "1EE21:بج§1EE24:ه§1EE27;حي§1EE2A:كلمنسعفصق§1EE34:شتثخ§1EE39;ضغ§1EE42:ج§1EE47;حيلن§1EE4E:سع§",
  "1EE51:صق§1EE54:ش§1EE57;خضغںٯب§1EE62;جه§1EE67:حطيك§1EE6C:منسعفصق§1EE74:شتثخ§1EE79:ضظغٮ§",
  "1EE7E;ڡا§1EE81:بجدهوزحطي§1EE8B:لمنسعفصقرشتثخذضظغ§1EEA1:بجد§1EEA5:وزحطي§",
  "1EEAB:لمنسعفصقرشتثخذضظغ§1F101=0,§1F102=1,§1F103=2,§1F104=3,§1F105=4,§1F106=5,§1F107=6,§",
  "1F108=7,§1F109=8,§1F10A=9,§1F110=(a)§1F111=(b)§1F112=(c)§1F113=(d)§1F114=(e)§1F115=(f)§",
  "1F116=(g)§1F117=(h)§1F118=(i)§1F119=(j)§1F11A=(k)§1F11B=(l)§1F11C=(m)§1F11D=(n)§1F11E=(o)§",
  "1F11F=(p)§1F120=(q)§1F121=(r)§1F122=(s)§1F123=(t)§1F124=(u)§1F125=(v)§1F126=(w)§1F127=(x)§",
  "1F128=(y)§1F129=(z)§1F12A=〔s〕§1F12B:cr§1F12D=cd§1F12E=wz§1F130:abcdefghijklmnopqrstuvwxyz§",
  "1F14A=hv§1F14B=mv§1F14C=sd§1F14D=ss§1F14E=ppv§1F14F=wc§1F16A=mc§1F16B=md§1F16C=mr§1F190=dj§",
  "1F200=ほか§1F201=ココ§1F202:サ§1F210:手字双デ二多解天交映無料前後再新初終生販声吹演投捕一三遊左中右指走打禁空合満有月申割営配§1F240=〔本〕§",
  "1F241=〔三〕§1F242=〔二〕§1F243=〔安〕§1F244=〔点〕§1F245=〔打〕§1F246=〔盗〕§1F247=〔勝〕§1F248=〔敗〕§1F250:得可§",
  "1FBF0:0123456789§2F800:丽丸乁𠄢你侮侻倂偺備僧像㒞𠘺免兔兤具𠔜㒹內再𠕋冗冤仌冬况𩇟凵刃㓟刻剆割剷㔕勇勉勤勺包匆北卉卑博即卽卿卿卿𠨬灰及叟𠭣叫叱吆§",
  "2F83C:咞吸呈周咢哶唐啓啣善善喙喫喳嗂圖嘆圗噑噴切壮城埴堍型堲報墬𡓤売壷夆多夢奢𡚨𡛪姬娛娧姘婦㛮㛼嬈嬾嬾𡧈寃寘寧寳𡬘寿将当尢㞁屠§",
  "2F878:屮峀岍𡷤嵃𡷦嵮嵫嵼巡巢㠯巽帨帽幩㡢𢆃㡼庰庳庶廊𪎒廾𢌱𢌱舁弢弢㣇𣊸𦇚形彫㣣徚忍志忹悁㤺㤜悔𢛔惇慈慌慎慌慺憎憲憤憯懞懲懶成戛§",
  "2F8B4:扝抱拔捐𢬌挽拼捨掃揤𢯱搢揅掩㨮摩摾撝摷㩬敏敬𣀊旣書晉㬙暑㬈㫤冒冕最暜肭䏙朗望朡杞杓𣏃㭉柺枅桒梅𣑭梎栟椔㮝楂榣槪檨𣚣櫛㰘次§",
  "2F8F0:𣢧歔㱎歲殟殺殻𣪍𡴋𣫺汎𣲼沿泍汧洖派海流浩浸涅𣴞洴港湮㴳滋滇𣻑淹潮𣽞𣾎濆瀹瀞瀛㶖灊災灷炭𠔥煅𤉣熜𤎫爨爵牐𤘈犀犕𤜵𤠔獺王㺬玥§",
  "2F92C:㺸㺸瑇瑜瑱璅瓊㼛甤𤰶甾𤲒異𢆟瘐𤾡𤾸𥁄㿼䀈直𥃳𥃲𥄙𥄳眞真真睊䀹瞋䁆䂖𥐝硎碌磌䃣𥘦祖𥚚𥛅福秫䄯穀穊穏𥥼𥪧𥪧竮䈂𥮫篆築䈧𥲀糒䊠§",
  "2F968:糨糣紀𥾆絣䌁緇縂繅䌴𦈨𦉇䍙𦋙罺𦌾羕翺者𦓚𦔣聠𦖨聰𣍟䏕育脃䐋脾媵𦞧𦞵𣎓𣎜舁舄辞䑫芑芋芝劳花芳芽苦𦬼若茝荣莭茣莽菧著荓菊菌菜§",
  "2F9A4:𦰶𦵫𦳕䔫蓱蓳蔖𧏊蕤𦼬䕝䕡𦾱𧃒䕫虐虜虧虩蚩蚈蜎蛢蝹蜨蝫螆䗗蟡蠁䗹衠衣𧙧裗裞䘵裺㒻𧢮𧥦䚾䛇誠諭變豕𧲨貫賁贛起𧼯𠠄跋趼跰𠣞軔輸§",
  "2F9E0:𨗒𨗭邔郱鄑𨜮鄛鈸鋗鋘鉼鏹鐕𨯺開䦕閷𨵷䧦雃嶲霣𩅅𩈚䩮䩶韠𩐊䪲𩒖頋頋頩𩖶飢䬳餩馧駂駾䯎𩬰鬒鱀鳽䳎䳭鵧𪃎䳸𪄅𪈎𪊑麻䵖黹黾鼅鼏鼖§2FA1C:鼻𪘀§"]

end WebTestbed.DomainName
