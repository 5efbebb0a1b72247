import JuryCaptions.Text.Printable
/-!
The starting table of the lagged Fibonacci generator: the state of
`s n = s (n - 607) + s (n - 273)` after 7.8 · 10^12 steps from seed 1, with
which seeding combines each word.
-/

namespace JuryCaptions
namespace Random

/-- The table, word by word in hexadecimal. -/
def cookedText : String :=
  "C5F74A33EB98FFEA C07B4A41BA965F5B 135EC513CB81AF0F 4A04FB5CA74395EB A7E8831C7710CF8E
7D5DE4E88F37C1C3 6321CF7743FF85A9 42CB06556A9FF961 6E26C8D140E8D7D2 49A7511F3411FAA0
71ED774922A65055 9D5C9FC65FEA2D5C 3FBDAB394A014368 70FA33596992340B AE10FB4ECEA66A02
F79FBCA98BBCD18A 97F7CCB12EA380AC 191D794CAF32B1B 3F6A323424E32CAF C642CC921F01142B
A122869F4FF38068 A5B1A31127AF3920 5B07A4F9BDC29D96 6A2A973C29812586 6AA433DBF77A52E1
8394216E3B8AC99E DB80A9C5515B997C 3C3F2EFF3CBF769 A6B5E431EEFF210C EC85334992953F5
2E6A1432DF10D1E9 BDE4629959D1B149 67994C3876387951 E15D461559BAE63 BDBF96C4E9D2A077
B04F62866ADA20F3 2190DA1646DB97BF 5071873C1832957A 3E3B503A19DA904B 33E388A5F2C78528
BEC70BAC19D0E877 256970F81BF072 F7D18A14F64FA886 A46EF978B4D4734C 782FF1573127A78E 241B0AD59BEBA6
DAC549591FE95B2F 6195FAF2884C2D39 569C2BBDB0EF345D B8B6039508CE21E EF1576705435D2BB
1D5E900AF5F1D8F7 1E902D187D7FD437 7F227B7C8FE0EB79 38790E6201EBBB98 44818EAC7922E171
658D6C550DAD340 84BFB894CC72969A A7855141E3B329BD 9CB31556B1BAE746 3CA09004F9686F49
C50146D7E508769 CD35D8FF935AC970 DE9818B4AA1554D8 4DF37EFD6433DAA0 F591E9AD05B2E056
1767EB0BDBF83E29 B8247292535299F2 BAE645975A5E4CEB ECEA78155C3BC32B 4E295E5357ACE86E
8B906A9A4FADBB08 FD50086AF64463C9 AD0385ACFD19D6FC BBE6D4A5E1D13A9F FC099F33B79B039C
D9782224840C5A35 174E38BC45D51ACF 53F82F9F54DE4E3E E10DFA0A87B3EF0E EA09D9EC7B439769
519EC3C7CC4C5011 B47990FC413E3D5 3F07E07ECFCE5BE2 A5D2D0B8B71922BE 451EEA1FC87CC761
C8505EDEF7F1D6DD FB6ED78E001CE905 D7CC0A3644F468BA 14C231DB2E4429D0 E21CCD9A90943DD3
664869F5288FC2D1 DDC56F604E168FB5 4151E4ABB0B1FAF6 EC9647E8CEA7B927 76A742187DBE61DE
80778D4049780E3C 92714446C26CE413 65475BC019E7700B E08781D60D86D17 9F0F0FE9D5F571E0
476E62BF33886E57 8C710CFF524EB4E6 24E856A59E3899A5 549F7C8B5783189A 9808539C06020014
B8FC59EEB2515467 F38FFF8B8499A614 F5A62BE73A3D5222 508B82832B4C4838 F5109FC7682FF8DE
D31CADF15CC53F0C C1720509406B5826 E900715210BC96FA 704FE3536D393FB C65C9B6ECCAEFB4A
8BAFC73092BE4019 7F0B599D77889EA 18DE0A49B8FA589B 2F174E71C9830FF0 B470B780A26785DD
20A6B76123B162BE 91EFBD24CDC58322 FB7BB75026B32623 D03D1CAF9A1F04D0 A5F0F909BCAEE921
46AA7CED9D1C8E0B FCD8A79E7A62B6F9 3AC4CF05BCE83F14 45C579A008A037C4 4053888E527912D0
F88FA0B2289F7B17 51FBAF5D2002BDDA 8AE403A812CA4784 D7EA237329FA450 CB3F04BF02B6F208
C796643E8A39ED33 FD92D79ED75B6419 216821C8B258E8AC E93D3AFF7B46E931 36B0858CFCB72B6A
AE5E3C9FE7FF1167 2AF4C395391CC2A5 E6C4FD076FEB7676 50EFB5FB31EDE773 6D7F243359DBFCAE
7193E740340E0FDB 8FF51F73A4C6DD92 94534B6EFA1CA966 C06A724520D70D41 30CD16BD19120592
8D456B580C2CD6DC 5C62BC0D6A8429EF 48744EA9B8E9395E 18EF14825C84AEE1 4A1E32B73A71E234
FEE6F27C45228C0 464E2E3BE0D2E4A1 23BB67F482E16008 F11B541E8247327 AE7DF90C7D2AAFD7
54E1F496142C391A 1D400EF625FA4274 9906966610CE9E13 22455934D7C1CCDA E6414239B7DA9220
B49F9091F6275556 82916B3D64288ABD 9F52D0A1C7066FA0 642A666CFB8CF0A1 8C9D981DB063AD83
63DFA26158B67E4A CE3CFE36EBECC2DF B6E4EB2BA55364FF 6FD2179E0D7717D1 B971A2B7362247DB
DBE5CF25D510C53B 930F28AD73735261 5A95DD01047FEB8B 30ADB1407358B45A 7FB44776784C1083
1B20E8F4EB075406 DC275F40B6C7C0D9 732DF8DDA67B0F27 B62637AFC484C885 61C98649838BF631
DF061FEE30277F58 95D322052DAC1455 7AD30486E478AEE9 3267221F4ACED145 479807052C3566B8
A8025350A77EA0B9 421A7EC2FC169CD3 57273AB05129A700 BAE4F7FB719F43F2 1C5BD857E8B8BF48
DAD594186971F359 3F518AAD9C427014 4C43C3B8CC8E8218 981FBA566F92DFB7 7ACAAC55435C0AC
5FB0881038CBBC8F F243B5556CBEBA73 63149F303BE79FD4 F6AADE431F712475 4CD2A557B6CBC24B
21BC6975C169DE72 CAF78CF40C768134 F13CDD624A12159F D573D0041B390D3E 69EA8BD93BADE806
578BAF3D78CD61F2 3318A93A7F689DC9 2DA7501CBDBE5235 5B6D448C9BB11200 36566CA66F231B4
B89E51E9E2B737E4 704687541C9B68CF 28DF28A35D2937C9 8BFEB2756944B0B5 29C24143C2234E9C
F4FD794F8D02068F 590F068DF15E57D E4AD98ADAB8DC009 4155B1828194A406 CE463027D4FF743F
D306231168EC0845 AE01984986C0C339 CC61983656980E5A B6B4B212AF3D051A 70AAF14A706CE17A
3547CBC995DE3A40 6202B8D9E9E8565F 8A49EA181DDBAC34 53A7BCB92853CE41 A2AA132546A16F3A
D6C166634BC92862 92FF6ACEBC93A071 7A403280A96CEA51 5A183B8F81665A24 222B4C80D2C0E464
859E3D4D58BA3AA6 B9A28389CB2FE563 83A20CB89512FEE4 CBD691B061B30CBD 8839BAF8F3AC9F09
5DDF03B3EDD1C4B8 F62694C4CB82ED09 D0C603B9879BD360 8558DAF780426657 C87FDB1B629E32AB
D77938D516862FE1 E33A56962759EC00 51BC82F174B90D9 AB3B5DEBCAD25C86 A8766BD0DD9B35DB
425F26B683CA1487 5D3C2B40A076F653 7464E98A72F8D634 2F02DD3EEA4E7841 40977FE842527877
FBF01AD4922B1D62 CA959C2A8B4EEA29 69CA7CA110533802 6B36496357247BD9 7F7C07645CA7B232
B8C63FA50AE3677B A0B7FD74703947D8 231FB1A0DC8CE079 16B63342B7C96E77 CD39A909D7E68027
1427685B19CAECDD 9C9C6CD28E91B74D 91C1FB790E0D3A54 7E67D3BDB81BB611 D396FC0D89F6E211
457EACFBB049EB22 1DE1979BF5654DD5 5D436CA7585D28CA D3D7E2863218D979 2FA7BE3CCF9D1645
1FB7A7E17B9ECCB0 2B2B1FCED929C282 D85A90375E64310D CB336A1611227DBD 636925F5BAF870CD
43E0D0254B84715E 80EC57577219247 175EE40F58FBD971 3D78CC365BADBCE1 8495A07683903295
8F89C0D3396A3B53 639BA81C88D888A6 3FAF8D9C775CA781 EAC40D3F519D2893 1FE31D8C7DF7DC4
36D8003387DD6DB 8C0621F768220A97 59D6A8CC7A082707 2AEA572AF8467560 1C910136C9FDF9C3
C73EDDFE111385E2 79EDB9A2A6A387DF D556D17ADCC5F6FB F72709F96B28A3C7 552D69F0428DCE6A
9CBBB4BE9A92C216 4F37AEF6CAF41C5D D3431110CDD7A998 3C7C1DE5B3CC1DCA 48311A7625EABD9
5EE41CB40CA81E2C 43385B68E51DBFFC D36A1F70D4F9A2FF CAEACCB927B0CB5C 3FDDAE4163E010E4
E7F5452A8C91EE0 7E61315458970CCB 8B821C0B10054C75 C444CF11F9840608 2536B7A7602F6B4D
331786D5A126F97F C9A9CD708372DB93 D7E75A07542451DA A4E5A10D28659104 9024EBCBF8B8E6AF
8137C3380F32523 32A31118A95E425F BD640B6140802B1E 967E3CD0F12B1C5F 31089E87FBAB9A7
F11BFBB3BA3E0841 3B7FC3AD0D1CD36B BFB2F4D968B759C3 4C8475564905D202 E0A80B2A6236FA83
86A5B8671A833AE3 79608828EB8FE58D 32BCB9F5721E717 12D224E5DC7E16DE 29E68B8251E0D495
2BC04A7508CB08A3 85F835A648329D25 4D2799F797EC19A8 443AADC076F2ED10 89357DE277E46717
AF7907AEB63C9D6C 27CE6BE004DB5B35 9BBF0228D95BF1D8 AE31E17B25E1B363 23E9429E957DB925
950E5FAB3C7E6825 2AEA3671BF9F5933 B2D2EF433932102C D7ED21EC77FC8C1 EA5F1280F48E6247
17B747CDF311AE42 E001060EA9FA838E ACA7508C5BCCFC84 A3AAA0843F04F963 F949F7A4E8EBD3A5
22876BDEFD41DF6C C124724F07E69E7C BF470DF23D5AA6B4 2998352099F590B8 11CC90F45895653D
3550DA1AB28F8D1 7842CC5C2B1B34DB 8B79B3694AC8400 BF72D50B84F96E2C 947079F8EB08F590
696CB72182050872 D4885BC9AC36D5A7 6CB888B579FE97E1 629482105204E4FD 3CEF790816B93701
BDA77A26BE136556 FB8F861314DDA828 8A2B7B803AE5BCF D3C8A91ED0323140 870001A0B867EC3E
E4F6C1F9B093DDE5 8E086BECBC0B8378 9E755197C06FFCC7 246705EE34F204F8 C7927582D516264C
B3E17BA47546133C A33F111B5CAAB4E2 A23D8E161443255E 48F128B344D0819C 6CD122FB39AB204D
5C2910BF238F36AA 90AEAC10E05F9BBA 9D54B6B00FE42ACA E88F64387A0FCDCB C45A205F01473609
C768ED8EB6B8C82D F225920D43FD23AC 25BDAD5A8A817964 7EBC9CEFB9015AAB 3C1EE78FA4EA733D
E30E85D1757922A4 61123DC5E081FE21 DC86C11079674E66 8918973FB91AB9FB D4EE55CA6D8C2A
D500476D5215B5B5 FC5068B3E2EA6D2A 205DA910DD23CB85 979B5E11369F775B 2BC872747D65EAD7
96BA83AA2AC19DE7 A2258710D3A06BD5 2BCFBD9169343E7 88EECD99246B6273 234B301B2D3C0302
3C61095D0931ECBF C1FBEAE253E44498 9BF8D56E39D28810 EF025E3275852770 3B81D83BC6A5B26D
740E3AF17358A76B 5A0491610C217837 B234C04EE9707BBA E8D67481CF12C324 3DC1A80712DE14DF
9646CD056265E405 C9ED5B85FE5DE223 C034E6309514CA00 A55CB1A9EA35E9BD 83585DAC1418CF4C
C6BFE6B67AE71DFA EDDE6A8095841598 8C478074A66108D3 49F4FB28492601C4 6C1F1E9A65E7ACB8
44C3F220E0A3A35F C4422797AC160D7E A9BED55A11AD2C15 29BDBE2CDE52AC8D A2486ED01638FB0C
7BE91FDD8FA25058 6D06C94A2118CF50 BE19F2B9FCB649E5 6DA310D0DDEFE702 9DB4D6197FE76870
A1A8E96DD484EB63 A2803DFD82F85916 3A1A0A44D7644C46 1A25188BB552AA62 FA3EAB18C620BD11
33D24F4EDD10EA99 386D39256536CC6C 607E759EFB2BA1E8 921EBB3D7C6C6071 96BA6B088F86692F
B2BD2AEAEAFED279 B70CC2DEF3AB10AC 2B1C1284B0B6DB2B D7D4C4DB5BBDFF92 3F5B8190A0A0241E
1B79F6457E60CFAE A05C318C94181E91 3480A671B033E3D5 7579955EFBBAA755 2777C9F6D0C6B0D7
2A0F21C2F6662C43 C286B4BC45869BBC 3DE266B1C86ED249 596478EE80942C5 6FD3618B2EE6AE1B
3F08073A3E5DEA77 E7847D01D6E71AF CD1F81AFC4FBAAFE 24BE71C60778C940 1DC2B6DF046A9621
D0944E93950F6CCF E2C767041EA34007 521BF9C9206576C6 866B7A2BD7715E51 7A97753C8C793641
52DAAC19784A65E4 7D3110B7C73F7EB A66B273FBCC429B7 16302DC85A75540A C840D3700A56E4DE
D6875303FCD05BFF ABBEED06A5E32588 758A6526F8636A3A 1BE7ADAE8E62038 C9B4BEC75BC4F40A
DC7A69CE0A9FC1C3 F93F853C0ADBAA64 BE48B8658E39D5B6 5233CC88F307CB85 81F48C566746E404
E6E72B2F3E111192 6EE3AD5D7B4333D5 3BEBF80ABF44E35E 324F3DFA2996372C A60900D584D3294F
CFB39707D3E017C8 D33CD1090A56F237 FAE17AC7E5605D43 C8C0106F0EAD4419 89BBA8037B2A60BE
6999983C12A6557D 29ECB289D4FC6351 DC4E3EC308888D22 2492188C7C1156A7 476502781CF85A10
8E5D5DB3B1C10B44 15BFF6623BA91EB7 716A28BBA3F09C65 D7F47607C92F30F1 9E04907834879DAD
A611C59795DB7099 9A74C74315758AA3 536D4C40116F3239 52539AC587AD97D0 1F1A1675F28959C3
8C6D78F5619E8324 2AF1CFE563EFF7AD 3F9D2212E5C94B1D 7E023D467B37B61F FAAB76ADABEEE96B
CFF95DD9926B62D1 3AA278A62172DB76 9982ABE519C8C867 34C2118DF1F5857E FA7376B640136C80
98A7D04CA29ADE2F 6D9F14B04D77E77E 4B3DAD048BED47A1 4C9EE5E4931D3231 BAF4EBA543F33D0A
793AAFA07373D926 986EA60FE6B39A32 E31F344F666361E6 F21CBEDC44C049CB C4F752A0EB5E5403
AF1B99E27D410520 592740A0E5B8C3DD 4FC4EA5FB446C97 AD6E587F47AFE7A6 DE542C137B8384A4
2A0FFC0F7B301E5C 820547300A5D8AF4 D3C639C2087DC079 A467CA8709A2BB6 E242BB6BB4DA36DE
6079B0531EC90376 58CCF98DC1843F7 8417B417B011AEC1 ECDEDD4FF0DD641B 8C3787282349E832
D5F0BB8816E7E8FB 85B650480FD8C2F4 7D45AA734F760B6D 5962428553D20814 400E2BA01968E7C4
77E19B9A3F76000 1D17558F6164030C 79753148C0E6C59F 9A77D2F2EF3BD843 666EB88D8701E16F
5572E7CE34288668 EB8D82B15491D607 77C265A71AEBBE54 4947DDDD6F3E9E07 628DFE635C795586
22673E39D43FF99B 637E086DC78CF522 EE37E3669F7E9C66 92D7BB47A4AFE838 1F9EABDFDBE2B7BD
324FCA6AF2B5C1D1 59E4A152525B1B29 7C91D10A8D75740E CC7C533A7FCA95D8 1266FBF77386B1DB
689A66BA46D1C3BD 4BD671B124B5701A 2C43FD0A9EAEC04D 58143117E4E16555 8358C5BB1248AC23
AAF677BD80E30AC5 FC997227A4F07F8F A848CC5D9CB0E150 640A711EB0E49B41 64FCBFA01DCA3978
980AAB2FFF6BC784 395C6750AA42E65E 287FEA4C9695F3F4 9516361749F6428A C977D592999F2194
C45166D9F6935FF8 A7F503A28F431CA9 51D3A3C351BE10EC F579E080162896E9 E5B5E9385B202824
FBBA1E4A59B0C60C A8DE655829AAB207 E1DE048DC78B382E 74535A96CC7ADFD7 7E57A19B735EF03B
39A00A3A31C025C6"

def cooked : Array UInt64 := ((Blank.fields cookedText).map fun w => (Printable.hexNumber w).toUInt64).toArray

end Random
end JuryCaptions
