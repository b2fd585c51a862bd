/-!
# Names of characters: mathematics

Musical signs, mathematical letters and sign writing. The layout is that of
`CharName.tables`.
-/

namespace RepoAtlas.CharName

def mathematics : List String := [
  "aBYZïŚÂSɝ; ƩLItDASEIAtԜtOXEIA EKĺITIKONzDIPLItǺEIA EKĺITIKONz²PLItKùşItSYRŶIKIteɵKLItYPOKƸISzǈ²P",
  "LItKREMõItAPESO EKĺITIKONtnEXtTĠIAtKĥŖTAtAPOǐOFOSzOFOS²PLItSYNEVŷǜTAtƐĿҸtmŀtcƩLteĈMtVùYtISONҸtjK",
  "ĥŖzkATtSAXŖTAtƝIċNtǌVROS APODEXIAtOXEIAIҸtnǺtjAPOĕMAwǛŷcKLAStcREVtPIASMAҸtTINAGŷcëǧĊSteSEuYNAGMA",
  "ҸzAÀTAÐAVROUtOYƱISMAҸtǛŷLEMOItDYOtǧþSSERAtKRATŖTAtAPESO EXOȯtFǝRAҸtIMIFǝRAtǨMIKONҸtcK÷VAÖƒKtcPEL",
  "õueSIFItKONTEVŷċREVMAҸtRAPISŷɵKæSMAҸyjŰIKItIĈDINtNëtPįSŷKONTEVMA§LOtfǨMIKONtǐAGGISŶAtgGƺTHtISONȯ",
  "tgƐGueXEIAtPįǎtKOUFISŷiPįǏtjKRATIMtPELõONȯtKĥŖTAȯ¨OzjtYƩLItAPOǐOFOSȯzgOFOI SYNDESMtYPORROItKRATI",
  "MOYPORRƘtcELAFRtĈŽItMIKƺ ISONtǺEIAȯtfPIASMueSIFşONtOMALONtïIKENOŷcLYGIStɵKŰIKIȯyeæSŷEǙƓɵKæSŷdKYL",
  "IthïIKENOtǨMIKONȯtEKǐEPǢtSYNAGMAȯvRŷċREVMAȯtEPEGERŷSEISMAȯtXIƺ KLASŷǨMIKOƩFşONtƩFşOLYGISŷiǨMIKzd",
  "OɵKætmƩFştcǨMIKOSYNAGtiƩFştŀGOSYNǛǢtmAtnEǙƓtOYƱISMAȯtǛŶISƀ ESOzISƀ EXOy APLOUNwS¹I APOǛStK÷VASŷģ",
  "OĺONtYFĢKúyANOtǌVROStKLASMA¨OtDIPLIҸtjKRATŖzA§LOzAȯtgAPOĕvLItdDIteTRudEǥtKOƺIStLEIMMA ENOS®ƺOUz ",
  "DYO®ƺONziȵONzkÓǋRz IMISEOS®ƺOUtŀĿȯ¨OzÇƵTIGŻƓAƸǙAzÇƵTIGŻƓDEXIAtDIŀĿzƓƝĭIGŻƓAƸǙA¹TOzƓƝĭIGŻƓAƸǙA¨Oz",
  "ƓƝĭIGŻƓDEXIAtǧŀĿteAtfIMIDIthtAGOGIÉLI©GIzARGOǙIzARGIzMEǧAzMESIzŀGIzŀGOǙIzPƐ ŀGItŵTYRIA ƨTOS IċSz",
  "nIA§LIziIA±YǙzpIA§LIziIAȵTzIAȵĺIASzIAÓTóOS IċSzjIAÓTóOS¼GEzoIAziIAÈAGItcISAKIAÓLOǷIĊŶtrAPOǐOFOIt",
  "FíROǈÓǥĺIASzgǈÁNOzgǈ²tŵTYRIA ǺYS IċSzlIA ƨTOzhIAÈAGIOSÓTóOtŀTHMIKƓN APLOUNzfIKƓN²tENARXIS¹I FǝRA",
  " VOUtIMIĺONxcǝRtFǝRAҸ±YǙOU IċUҊNIKIÇҊNIKIÃNAzÃOS IċSҊNIKI²zd SKLIƺ²úNONҊNIKIºҊNIKI ZOҊNIKI NI¹TO",
  "ҊNIKI NI¨Oz¿LAKƓCHROMA²ĺIASzg¿LAKƓCHROMAÁNOuHǤA SKLIƺ®ROMA VAǈuǝRA SKLIƺ®ROMA SYNAFIz NENANOtCHR",
  "OA ZYGOSzKŰONzSPùItFǝRA I YFEǈÓTóIMORŜz ENARſIOS¨TIĺIAtYFEǈȵTIMORŜtqDIziÓTARz APLI DYO DODEK÷zjÁ",
  "NΖƀÓSSERAzj²ɐƀ EXzjȵɐƀ OKTOtkYFEǈ APLI DYzjÁNΖƀÓSSERAzj²ɐƀ EXzjȵɐƀ OKTOtGENIKI²Eǈze YFtĖǏLI APLI",
  " MIKRIzLI APLIÀGçzcLI²PzLIÔESEOStiǇANǈzISÔESEOS²ǇOUzgISÔESEOSÖzfISÔESEOSÓǥzIS©SEOSzIS©SEOS²ǇOUzg",
  "IS©SEOSÖzfIS©SEOSÓǥtDIɐMA GGvFTOGGOS OUtǎGŷARKTIKOÇzO VOUzO GAzO²zOºzO ZOzO NItKĥŖTAȯÀSOzkz÷ȯ¹TO",
  "zkufLASŷfŀĿȯ¡10aMUSɝ;дȫɦji+jiĸALjnѦ jiDôEDjiΧj(ËƞT &jj'jREƞTʛjĒ SEGNOl¬POjSEGNOjCODAjREƞǗ FIGURE",
  "-1z2z3jFERŶAq@jĄù]jCAESURAjăCEnťjƔ-ɦÐAFFjlǬklɚjlɏklšjlǉnǐɟFRETˎjrɏjG CLEFp OǪVA§TAxBAǋjC CLEFjfF",
  "p OǪVA§TAxBAǋjDRUM CLEF-1t2¡2jϵŭM˟EËSTj+ȴRPlFŬjFŬ×o^jNAǫäUPr^jǂRP×p^jѤʧȴRPwFŬjčſ TŗkfUTjOǪVA§TAq",
  "BAǋjƬNDŒǇA§TAwBAǋjMULTIËSTjfWHOLEjfɒjfѤjf|HjgѬTjfЁ-SˠjfǉTY-ɏTHjgԛ Ѳ|jXȰEɔjjPLUSjjϥ XjϾȰEɔ ~z>jЅŭ",
  "ƇEɔ× ~Ȩǳ>Ȩ( ~Ȩ( >Ȩ' ~Ȩ' >Ȩ^ ~Ȩ^ >Ȩǳ' ~Ȩǳ' >jMƘȰEɔ ~x>jЅLE-ΠȰEɔ ^ ~zOTEɔ ^ >jӕISȰEɔjjVOIDjƇEɔ >kǰ",
  "ȰEɔjCLUǍRȰEɔ ~z >jˏjWHOŭƇEjfɒjfѤjf|HjgѬTjfЁ-SˠjfǉTY-ɏTHjgԛ Ѳ|jӶǍMudƧCHGEƾG StǦMOLO-1zO-2zO-3jĸGĨ",
  "DÖEMOLO-1z-2z-3jӶAUGɬϠėtFŨ-ӈjBEGŘBEAMjfģjBEGŘǟjeģjBEGŘSLURjfģjBEGŘPHRASEjhģjӶACɄtǌCCútcǘUtǌCCATI",
  "SǇOtŵCúzO-ǌCCútjACɄtLOUREjARPEGGIú×u^jӶDOITtRIPtcFLtSMętBģt+ÕNGUEthІjƷļZìOjǑITOjZjPŐOjMEZZOjļTEj",
  "ĐSCģOjjDEjŁCEȰE ΩufNO jTRkURNjeӑjʊ ΩoUPjҪж-1z2z3z4z5z6z7z8z9z10z11ȕUPTǎMMEjgNEBENjgϧ jDEɑ ΩjӶ^ªW",
  "teUPtŅſICtSNAP PIZZ˷jPEĒ]o×]jɒ PEĒ]jGLIǋNDO×t^i#ĸGERNAILSi°MPn§LjMAXŖjɨAjːSjɽːS ~u>jžŖp >jɽžŖ ~u",
  ">jFUSA ~o>jɨA ѡAËSTpnIMjfːSjlɽjfžŖjlɽjTEMPǷѡUMՂE ѡAziՂE IMzՂE ѡA²žUʇ-1qIMѡUMՂE ѡAziUMՂE IMzUMՂE ",
  "IMѡA²žUʇ-1zUMՂE IMѡA²žUʇ-2zUMՂE IMѡA²žUʇ-3jđIXjGREŀɜC CLEFtfFjϾ BjVIRGAjPODATUSjCLIVISjSĆDICUSjd",
  "CLŖjcǤCULjcPORƳTs FLEXUSjjSĆDICjcǤCULǷƵUƤjPESÑBPUNCTISjKIEVêC CLEFqϧ PIECEqϨƇEqƳŠʈ]qWHOŭƇEqfɒqѤȰ",
  "EÐEM ^zOǖǍM×q|HȰEÐEM ^zTEM×qFŬ &jSORIjKOƺ¡21a˰ VOąȰˀ;-1w2w3w4w5w6w7w8w9w1ղw2ҙ4w5ҙ4gINǐUɬäƇˀ;-1χ2",
  "χ4χ5χ7χ8χ11χ12χ13χ14χ17χ18χ19χ23χ24χ25χ26χ27χ29χ30χ32χ36χ37χ38χ39χ40χ42χ43χ45χ47χ48χ49χ50χ51χ52χ",
  "53χ54aӶ˰ÂSɝȵSEMEzeEǥyfƠTa˰ÂSɝ¼IMMA¡154aMüNгL ZĩoօoǘocĠVoαEpѐofFOUpeIFoeǉpeɋod|odɭT¡12bONΖʝ˞agDIɐ",
  "ʝHEûNLYmgUŴl˞LYµûNuUŴpHaTEǥɐʝϤoFǰУoMIREDoĀRIERoKEEPɟ%oɇRARIETYoASɄoƙOϼoăNĊƃƚoDEFECʈNĬȳDşORʇpšRGE",
  "ƁoYƚHFULNĬoINĐASEoƠEǥʇoƲCHoɇACToHƏśʙoWAIʆodFƑOWoADVAƁoRĠASEqǈǔCEoEASEoJOYoɇĥŜoģEAVOURoDUǟSoĈNGEo",
  "DECISšNĬoBɯƵOLUʇoPßśoLEGŜoɆENĬoKINǄPoGùEɻoǐĤTHoPUƹYoFǰNĬoƵœƁoLAWȳMOĔoƵPONSEoGƍGÕÀĲENCOUNǙSoǏVEoG",
  "ƲTNĬoEN˽ɬoPATǙNoƹUALoF˾oVõNĬȳWõśoĎǌNCYoM˟EoEǙNITYoeUoDIžŞɬoшMƚHoGUòEDNĬpùEɻ¸ȞSSśoACCUMULˀoEMBġŞɬ",
  "oDOUBToWATCHoSINɤoINNERoDEɶUREpARKENśpdIMMoEXHAUSʇoSEǻAƁpǣPáoŅDNĬočƦʇpLOSUREodFAILoAGŁVˀočPLŐCEo",
  "ƓǛ ǻGEoDIFFICULǟSoLABOUɻoeFOǍ¡9aCOUNʆÌD UNIT ?Ɣtէtǉuɋt|tɭncǘS ?Otէtǉuɋt|tɭacԙÒLLY] OtէaTèY]Ȳhɍ¡1",
  "35aŶHEŶɝªLD¢AuBuCuDuEuFuGuHuIuJuKuLuMuNuOuPuQuRuSuTȢVuWuXuYuZs% AuBuCuDuEuFuGuHuIuJuKuLuMuNuOuPu",
  "QuRuSuTȢVuWuXuYuZm.$ ApBpCpDpEpFpGpHpIpJpKpLpMpNpOpPpQpRpSpTpUpVpWpXpYpZn% ApBpCpDpEpFpG¡1pIpJpK",
  "pLpMpNpOpPpQpRpSpTpUpVpWpXpYpZmªLD.$ AuBuCuDuEuFuGuHuIuJuKuLuMuNuOuPuQuRuSuTȢVuWuXuYuZs% AuBuCuD",
  "uEuFuGuHuIuJuKuLuMuNuOuPuQuRuSuTȢVuWuXuYuZnѩ$ A¡1wCwD¡2wG¡2wJwK¡2wNwOwPwQ¡1wSwTwUwVwWwXwYwZu% Aw",
  "BwCwD¡1wF¡1wHwIwJwKwLwMwN¡1wPwQwRwSwTwUwVwWwXwYwZnBɯѩ$ AȤBȤCȤDȤEȤFȤGȤHȤIȤJȤKȤLȤMȤNȤOȤPȤQȤRȤSȤTȤU",
  "ȤVȤWȤXȤYȤZȥAȥBȥCȥDȥEȥFȥGȥHȥIȥJȥKȥLȥMȥNȥOȥPȥQȥRȥSȥTȥUȥVȥWȥXȥYȥZnFRAKǫ¢AxB¡1xDxExFxG¡2xJxKxLxMxNxO",
  "xPxQ¡1xSxTxUxVxWxXxY¡1v% AxBxCxDxExFxGxHxIxJxKxLxMxNxOxPxQxRxSxTxUxVxWxXxYxZn+н¢AyB¡1yDyEyFyG¡1y",
  "IyJyKyLyM¡1yO¡3ySyTyUyVyWyXyY¡1w% AyByCyDyEyFyGyHyIyJyKyLyMyNyOyPyQyRySyTyUyVyWyXyYyZnBɯFRAKǫ¢Aʔ",
  "BʔCʔDʔEʔFʔGʔHʔIʔJʔKʔLʔMʔNʔOʔPʔQʔRʔSʔTʔUʔVʔWʔXʔYʔZʕAʕBʕCʕDʕEʕFʕGʕHʕIʕJʕKʕLʕMʕNʕOʕPʕQʕRʕSʕTʕUʕVʕWʕ",
  "XʕYʕZnԁ¢Az Bz Cz Dz Ez Fz Gz Hz Iz Jz Kz Lz Mz Nz Oz Pz Qz Rz Sz Tz Uz Vz Wz Xz Yz Zy% Az Bz Cz ",
  "Dz Ez Fz Gz Hz Iz Jz Kz Lz Mz Nz Oz Pz Qz Rz Sz Tz Uz Vz Wz Xz Yz ZyBɯ$ AҋBҋCҋDҋEҋFҋGҋHҋIҋJҋKҋLҋ",
  "MҋNҋOҋPҋQҋRҋSҋTҋUҋVҋWҋXҋYҋZҌAҌBҌCҌDҌEҌFҌGҌHҌIҌJҌKҌLҌMҌNҌOҌPҌQҌRҌSҌTҌUҌVҌWҌXҌYҌZx.$ Az Bz Cz Dz E",
  "z Fz Gz Hz Iz Jz Kz Lz Mz Nz Oz Pz Qz Rz Sz Tz Uz Vz Wz Xz Yz Zy% Az Bz Cz Dz Ez Fz Gz Hz Iz Jz ",
  "Kz Lz Mz Nz Oz Pz Qz Rz Sz Tz Uz Vz Wz Xz Yz ZxªLD.$ AҍBҍCҍDҍEҍFҍGҍHҍIҍJҍKҍLҍMҍNҍOҍPҍQҍRҍSҍTҍUҍV",
  "ҍWҍXҍYҍZҎAҎBҎCҎDҎEҎFҎGҎHҎIҎJҎKҎLҎMҎNҎOҎPҎQҎRҎSҎTҎUҎVҎWҎXҎYҎZnſOΫ¢AzBzCzDzEzFzGzHzIzJzKzLzMzNzOzP",
  "zQzRzSzTzUzVzWzXzYzZx% AzBzCzDzEzFzGzHzIzJzKzLzMzNzOzPzQzRzSzTzUzVzWzXzYzZm.% ҟIxJ¡2mªLD¢ʾuɃu˪u˜",
  "uэuZįududTHucIOu˺u˻uMUuNUuXIuќuPIuƶuέ;uΨuǕuѵuƣucCuƩuΗsNABLAs% ʾuɃu˪u˜uэuZįududTHucIOu˺u˻uMUuNUuX",
  "IuќuPIuƶuϨΨufuǕuѵuƣucCuƩuΗsԀFFĨNTŏsэ;sέ;scţPsƣ;sƶ;sPI;m.$ ʾpɃp˪p˜pэpZįpdpdTHpcIOp˺p˻pMUpNUpXIpќp",
  "PIpƶpέ;pΨpǕpѵpƣpcCpƩpΗnNABLAn% ʾpɃp˪p˜pэpZįpdpdTHpcIOp˺p˻pMUpNUpXIpќpPIpƶpϨΨpfpǕpѵpƣpcCpƩpΗnԀFFĨ",
  "NTŏnэ;nέ;ncţPnƣ;nƶ;nPI;mªLD.$ ʾuɃu˪u˜uэuZįududTHucIOu˺u˻uMUuNUuXIuќuPIuƶuέ;uΨuǕuѵuƣucCuƩuΗsNABLA",
  "s% ʾuɃu˪u˜uэuZįududTHucIOu˺u˻uMUuNUuXIuќuPIuƶuϨΨufuǕuѵuƣucCuƩuΗsԀFFĨNTŏsэ;sέ;scţPsƣ;sƶ;sPI;nԁªLD",
  "¢ʾҋɃҋ˪ҋ˜ҋэҋZįzdɯ$ zdɯ$Ôω¢IOҋ˺ҋ˻ҋMUҋNUҋXIҋќҋPIҋƶҋέ;ҋΨҋǕҋѵҋƣω¢CҋƩҋΗzɯNABLAҌʾҌɃҌ˪Ҍ˜ҌэҌZįzdɯ% zdɯ%Ôω",
  "¤IOҌ˺Ҍ˻ҌMUҌNUҌXIҌќҌPIҌƶҌϨΨzgɯ%ҌǕҌѵҌƣω¤CҌƩҌΗzɯԀFFĨNTŏzɯэ;zɯέ;ω¹PPzɯƣ;zɯƶ;zɯPI;ҍʾҍɃҍ˪ҍ˜ҍэҍZįzdƏ.$ ",
  "zdƏ.$Ôω.$ IOҍ˺ҍ˻ҍMUҍNUҍXIҍќҍPIҍƶҍέ;ҍΨҍǕҍѵҍƣω.$ CҍƩҍΗφNABLAҎʾҎɃҎ˪Ҏ˜ҎэҎZįzdƏ.% zdƏ.%Ôω.% IOҎ˺Ҏ˻ҎMU",
  "ҎNUҎXIҎќҎPIҎƶҎϨΨzgƏ.%ҎǕҎѵҎƣω.% CҎƩҎΗφԀFFĨNTŏφэ;φέ;ω.ţPφƣ;φƶ;φPI;nBɯ$²˪si%¡2sʻtƔtէtǉuɋt|tɭn+нϋxƔx",
  "Ǭyɚxɏyšxǉyɋx|xɭnԁϋzƔzʌήz˩ɍzʁΥz|zɭyBɯʻzɯ?Ɣzɯ?ʌɯ?ήzɯ?˩ɯ?ɍzɯ?ʁɯ?Υzɯ?|zɯ?ɭnſOΫϋyƔyʌɚy˩šyʁɋy|yɭa&Wƹɟɓ",
  "-FşϓogϥpgUPogOVALog˶ohîLԢ BĥolϥolFşϛ γtϬϹ KNǮLEzCǵEDzcHśz˶D¾WoϥЫ˶Ԣ ΑEonϥԢ =Bĥz=Ϲ KNǮLESz=˶Dzhǳz˶",
  "D =UPz=Ӌz=ӋЫBĥze=Ӌ =z=Ӌ CǵEDzc=Ӌ¶NGzc=˗opϥoFş =Bĥ ɳϓtϬBĥϙΑEz=THUMBonϥԢ =ұϛ Bĥz=Bĥϛҿz=ЃBĥz=˶D SƧA",
  "D ԃzmǳ=˶zǳ=˶Dϛ Ӌz˶D =ǳԃz=ǳSƧADϛ юz=ЃCǵEDzc=ЃɅLzc=Ѓɘzc=ЃHśtЃфЫ=ұtϬ=Ӌ ԃz=Ӌ ԃ Ӌz=Ӌ ԃ Bĥt=ЃɘěϬUPtcϬЃ",
  "ɘě=z=Ӌ ˶D ԃzn=˗z=Ӌϛ юzq=Ӌ Cǵt=ЃCǵěϬUPtcϬЃCǵě=tc=ЃчЫzУDЫ˶DtϬЃʿD ƚ =UPzeЃʿD¸zeЃчz=ЃӋ ˶Dz=ЃʿD ƚz=Ѓʿ",
  "Dt=ЃʿD ƚЫUPzόD ƚЫ˗EDzόDЫUPtϬЃɘě=˶DpŬ ɏЩSzśERS BĥzśERS ˶DzcśERS¯NJƍzśERS Ӌ SPŰoCLAW ɏЩS ӋoFş ɏЩS ",
  "Ӌ Bĥo˶ ɏЩS ӋoFŬ կDttŉL tկD ɏ BĥtzŉL ɍtfկDtyŉL tկDϛ юoCǳկDzNGERS SƧADʣoz˶oOVäկDoFŬ կD ˶DzśERS SƧA",
  "D ˶D ԃzśERS SƧAD ˶DÄϛrTsҹPALM³CśStŉLtԃtkŉL tЃBĥzюtSPŰЫԃzϤzϤ ԃzϤ ԃ BĥzŰTLEoCLAWs ԃtNOϛtЃюoɘ ɈICUE",
  "rKoCǳɱqPrʣ ԃsksΘNOϛsisΘЃюsnqRůUEʣvEpIRCLEoOVALs ԃtNOϛtЃюo˶ʣyϛ юsEt %uΘԃukuΘNOϛuiuԃÕUĊNGϓzҹ=ɻoʿԢ ",
  "=ɻomϥonHśonîLo˶ЯԢ =ɻ Bĥz=ɻ Ӌow˶oFşЯ ^z ^ RIPƦҿz ^ RIPƦ ˘Dzc ^ OʅS ɅLz×tjЃγ okϥokOVALokʿoFşЯ Ϲ KN",
  "ǮLEz BĥzÕUĉSϛzgon˶ogFşЯϓot˶oʿЯЫЃϬЃƚzEϓϛϓϛoFşЯϓonϥooHśooîLԢ =ŰTLEooϥopHśuɻoʿЫ=ŰTLEogFşЫ=˗ ouϥoFşʤ",
  " ^o˶ʤ ^ЫЃɘ ΑEoʿʤ ^ =ЃϬ˗oFşʤ×yϹ KNǮLEycŰTomϥomOVALomʿocFşʤ MIDDy=ӋzϹ KNǮLESyřEXyTHUMBolɘԢ ԝosϥpUR",
  "ůUEЫԝÆoɘЫԝ ƚzԝ¸zԝ γoCǳϬԝos˶oʿЫԝ ƚz ԝoFş =^o˶ ΑEoFş =UPoeϥoFş =Ϲ KNǮLEuǳԃoɘ =THUMBoFş =ЃŰTLEugugɻ",
  " onϥpURůUE =ԝÆqP =ԝon˶oʿ =ԝ ƚzЯ¸zЯoϥ =ԝ BĥpLAW =ԝ ӋzŰTŭӋÏDEoɘ =ԝ Ӌ ƚzŰTŭӋ¸zŰTŭӋpcśEЫHśԢ ԃor˶Ԣ ԃϛ",
  "ЦALzԃϛ Ӌzԃϛ BĥzfԃϓzfԃªTHzԃЫ˶zЃюЫұzЃюЫBĥzЃɘzЃɈICUEzЃ˘ϛЬozCLAWϓԢϛХЃγzЃϥoCUPϓϛzHUMBʣor˶zϛЭϛzϛ %oʿЫЃ",
  "ƚzϛ¸zϛogFşyµELzSœЦALzSœ ӋzSœ BĥzюzфЫΑEzф =ɻzф ԝzγȶЩSzoOVziγ ήziγ ˩ɳ ɏ Ϲ KNǮLESrTsµELjTOUCHдpcϵpф",
  "jŁSPдpcϵpфjǐIKEдqcϵqфjBRǸдpcϵpфjRUBдncϵnфjSURķE;Sq фkƫEZEϖдrh%rc˽ ϵrj%rSĦĥŏjFůKϖдph%pc˽ ϵpj%pSĦĥ",
  "ŏjSƫEZE FůKԣԇ˶× ^ЭP ^ %zP SĦĥŏyl^yǳ^ԣЭP ^ԣ %ySœÕÏDE SCISSORSsԄĸGħɇACTsu˨sԄϻҿʘдҿӭдҿЭƂϻҿϖSTȩд ԅȩ +",
  "ҿȩ + ԅȩ +ԣȩ +ԣ ԅȩώȩ Іҿ Ҩȩ І ԅȩ Іԣȩ Іԣ ԅȩ Bģʘ Bģӭ BģЭNEФʘФӭФЭNEФÌTˀȩ ˒ʘ ˒ӭ ˒ЭNEȬʘȬӭȬЭƂZIGZAGʘ ZIG",
  "ZAGӭ ZIGZAGЭƂƞKSʘ ƞKSӭ ƞKSϖjǥVEL-ԄROѮԄϻzӮԄ+zӮԄпʆzӮԗϻzӮԗ+zӮԗпʆzdȴKz©M SPIƯдz©M SPIƯ +z©M SPIƯ ІԇӍ",
  "Aǽ %zL AǽбzL AǽЭL AǽϖSTzLÕ: %zLÕ:бzLÕ:ЭLÕ:ϖSTzLҹAǽ %zLҹAǽбzLҹAǽЭLҹAǽϖSTzLҹTO: %zLҹTO:бzLҹTO:ЭLҹT",
  "O:ϖSTsԗϻҿϊдҿбʗдҿӬдҿϖSTʗд ԅʗ +ҿʗ + ԅʗ +ԣʗ +ԣ ԅʗώʗ Іҿ Ҩʗ І ԅʗ Іԣ Ҩʗ Іԣ ԅʗ BģʗФϊФбʗФӬ ˒ʗȬϊȬбʗȬӬ ZIG",
  "ZAGϊ ZIGZAGбʗ ZIGZAGӬ ƞKSϊ ƞKSбʗ ƞKSϖjǥVEL-ԗROѮԗϻzEӮԗ+zEӮԗпʆzEӮԄϻzEӮԄ+zEӮԄпʆzdEȴKԇԄ˘ ѤʘХѤӭХѤЭNEХ",
  "ѤϖSTȩХɒ-ϥʘХɒ-ϥӭХɒ-ϥЭƂ˘ʡ-ϥϖSTȩХή-ѤУʘХή-ѤУӭʢʘʢӭʢЭƂLOOPʘ¾OPӭ¾OPЭƂLOOP¤+ȩʨХ+ʘʨХ+ӭʨХ+ЭNEʨХІʘʨХІӭʨХІЭN",
  "EХǛNҿȩ ˘Dώʘ ˘DώбjROѮԄϻȩ +ȩ пTEԇԄǂɤȩХHIЇFƺTØLLztNEʢzuƂLOOztNEʨjuROѮԄSśLztƂ+ztNEԣԇԄ˘¶ЇĉSTzoNEʢzpƂL",
  "OOzoNEʨjpROѮԄSśLzoƂ+zoNEԣԇԄWû ӍPùʘʨ ӍPùӭʨ ӍPùϖsԗ˘¶ЇCEIɧϊХHIЇCEIɧӬʢ¶ЇCEIɧ¤+zcíʢ¶ЇCEIɧӬʢ¶ЇCEIɧ¤Іzh",
  "íʢ¶ЇCEIɧЭcí¾OP¶ЇCEIɧ¤Sśzhí¾OP¶ЇCEIɧӬ¾OP¶ЇCEIɧ¤+zcí¾OP¶ЇCEIɧӬʨ¶ЇCEIɧϊʨ¶ЇCEIɧϖjROѮԗϻ¶ЇCEIɧzqí +zqí",
  "ԣԇԗ˘Մϊ ˘ՄӬʢՄ¤+zcíʢՄӬʢՄ І¤ІzhíʢՄ ІЭcí¾OPՄ¤Sśzhí¾OPՄӬ¾OPՄ¤+zcí¾OPՄӬʨՄϊʨՄϖjROѮԗϻՄzoí +zoíԣԇԗ˘ϊХϴʗ ˘",
  "ӬХ˽STʗХčĂEDʗʢ %zdí¾Oʗʨ SNAKEʗʨϊʨϖjROѮԗϻʗ +ʗԣԇԗǂɤÇƯLELsԄARMУ¤ϻzhƂARMУӭ©MУ¤+zcƂARMУбsԗARMձL¤ϻzhí©M",
  "ձLбzhí©MձLӬ©MձL¤+zcí©MձLбzcí©MձLϖsԄWƸTУ FƺTдȩ WƸTУ FƺT +sԗWƸTձLдʗ WƸTձL +sԄĸGħϥSдȩЩУS +sԗĸGħϥS¶Ї",
  "WèдʗЩУS¶ЇWè +jDYNAMICʳ %w˽q³STrSŲrǘSErRELAXEDrǇULǔEOUSzEOUSԣrEηOʅ TŗrŁDUALjɔn RIMoҨ-ԄұzLLƥƂǠTxԗұ",
  "xԄ˘xl˨wУjķE²ƳʇÉϼÄƿю ǠʆzOϼÄƿUPȳ^zOϼÄƿUPȳ^ ǠʆjĵBƻSҿ×zT їzT ^jcDƲMY ĵBƻS їz^ їziUPzї×jļEɔ їsɇACTsWѨ",
  "jĵSʣoSƫEZEDocɆm BLINKдtcϵmSʡʣofWœoɒ ɆEDoWœNɟҨmÙNKmLôES×t^tFLUTǙśmGAZE-ԄұzEҿ +zEҿԣrԗұȩҿ +ȩҿԣrԄ˘Dr",
  "m˨rԄɅɧjĉEKS PUFFEDqїqSǮEDjǘƿĉEKS ɗwΑEwŲjęSjNOƿїoɇACToWƷKLESpdIGGjã BŲɟƚnSǮɟINnBɩ%ÌTˀSnmSǮjĄù¸Hæq",
  "eEXjMƚH шїwюwɇACTpSŽEu WѨvɱpFƻNu WѨvɱpΘϥuюuWѨuOVALy WѨzYAWNuƳTʿzNGŭWѨzNGŭYAWNpKISSt юuWѨpǘSEu юv",
  "SǮEDjLIPS ƧSSěTOGEʅmc¾ǾϙǵncЉɳ¾WjMƚHФSpWƷKLESдy+jǢGUEÐICɤ ƚ³Rqůɤ½PSqfǡ фuTOUĊNGЬϘqINSœϘËLAXEDqMOV",
  "ES AGâST®EEKqϤÐICɤ ƚxINSœϘkcĝ ҨpƓǢGUEy ҨsLIPSw ҨpBIǖLIPSԇԄJAWsj˨jNECKȕIRjEXCITEɬjǅULĕ¶P SƤEwPOϼS",
  "jԄǅULĕ¶PÁVEjx˨jǅULĕ ǠʆʟØşjǤSO-ԄұÐRETCHz˘D BģpԗTWşśjЉBODY Ǡʆʟ¶P JƍTSjLIMB¯MĂˀoLĤTH-1v2v3v4v5v6v7j",
  "ĸGERjLOCˀ-ԄΫsl˨r H|sWIDTHscDEPsɔ NECKsǤSOsLIMBS²GITSj˖jӏjɽ˕jfjӕIS¡15jFŕÁDIFIER-2Мx6¡1jROTϠMODIFI",
  "ER-2zR-3zR-4zR-5zR-6zR-7zR-8zR-9zR-10zR-11zR-12zR-13zR-14zR-15zR-16¡1104aҧFĤҒ#ǧLLiӛѩGfcʩʊEDʒӛKfʩ",
  "L#BELTʒLEZHՋҷY#BELTiӛĤҷR#˿LEG)Ӛ ɘjpʭfo!Ӛ CůK#ʒīÚĀr)ɈieѱT#ff!ӑԫgfǐET˓Cg%¢ѱKʒL#FŞɘieDEZHҒ#PоimL#BE",
  "LT)imĤ#inѱRimR#FŞɘ)imTīҒ#ioEZifDEZHҒ#ӚioIи)ioO#ipTīҒipCiS#Ɉ¡225aӶGŨƐǞ!AZUvBUKYvVEDEvGŨƐvDOBROvYĭ",
  "UvZHšTE¡1wEMLJAvIȃwdјIvIvDJERVIvKAKOvLJUDIJEvMYSŰEvNôIvONUvPOKOJIvƹSIvSLOVOvTVRIDOvUKUvFƹUvŋU¡2v",
  "SHTAvTSIvCHRIVIvǂvYERUyIwATI¡1wUv% YUS¡1vYOvŝøD¤YUSveBIGvhŝøD vFŠ¡213aƊAKĤ PUACHUE HſG!MAxǩxNTAx",
  "cxHAxNAxXAxNKAxCAxLAxSAxZAxNCAyǩxKAxDAxƉyRAxVAxNTXAxdxFAxRAxQAxYAxNQAxPAxXYAxNPAxDLAxcNPxłxMLAxc",
  "PxGAxƼxAȣIxUxOyOxEyExW¡3wʧ-Bȩ-Mȩ-Jȩ-Vȩ-Sȩ-Gȩ-Dx&ʝɸONzļÔśzļ¾Cˀzļ¨ŖLzļ¸ǻTEăTEzXW XWxӜLĤǛNER¡2xʻyƔy",
  "ʌɚy˩šyʁɋy|yɭ¡4xLOGΖ ƉJxч¬¡320aTOTO!PAfBAfTAfDAfKAfGAfMAfNAgGAfSAfĈfYAfWAfJAfHAfRAfLAfIfĄùY IfIUf",
  "cĄùY fUfEfĄùY EfEOfcĄùY fOfAEfcĄùY fAe¥Ƹɟʉ¡17aWANċ!AAhAhBAhCAhDAhGAhYAhƢhLAhNAhPAhT˃FAhS˃JAhZAhW",
  "AhVAhKAhOhAUhRAhMAhŦhchEhIhƄhUhLLHAhǩiRAhƕhcAAichcIhONhENhAANhƉhUENhYIHgʧ TUPpNImKOIpNIhʻiƔiǬjɚi",
  "ɏjšiǉjɋi|iɭ¡5hNGUN &¡1248aİIOPőӜHHYAvUvIvAAvEEvEvO¡1sGURá HHWAsHHWIvEEvE¡1sGURá MWIzMWEE¡1zQWIzQ",
  "WĞQWEzBWIzBWĞKWIzKWĞKWEzGWIzGWĞGWEzFWIzFWĞPWIzPWEE¡1aŻDE KIKAKUI ӜM001 KIz02¹z03 KUz65ºEz95ºz76 ",
  "KOOz48 KOy179 KUAy004Ùz05Øz06 WUy126 WĞ18 WEz14 WOOy045 WOy194 WUIz43 WEIy061 WVIz49 WVAy139 WVE",
  "y007 žz08¿Nz09ÂNz59ÀNz94ÁNy154ÂANz89ÂENy010 BIz11 BAz12«y150 BEEy097 BEy103ªOz38ªy013 Iz14 Az15 ",
  "Uy163 Ğ00 Ez65 OOz47 Oz37 EIz31¸zd35z95¨z78 ENy019Ïz20Íz21Ñy162 SĞ16 SEz36 SOOy079 SOy196ÏAy025½",
  "z26»z27 LUz84¼Ez73¼z54¾Oy153¾z10 ˿LEy016²z17°z18 DUz89±Ey180 DOOz81 DOy022 TIz23Òz24 TUz91ÓEz55Ó",
  "y104ÕOy069Õz28 JIz29 JAz30 JUy157 JĞ13 JEz60 JOOy063 JOyd175 ɨy031 YIz32 YAz33 YUy109 YEEy080 YE",
  "y141 YOOz21 YOy034 FIz35³z36 FUz78 FĞ75 FEy133 Ļy088 FOy197 FUAz01³Ny037 NINz38ÃNz39 ƈy117 NENz6",
  "9ÄNz76¶y041´y186 HUy040µEz96µz42·Oy140·y083µEIy128·OUy053¶Ny130´Ny087 HUNz52µNy193·Ny046 HUANz90",
  " ƅIz43 ƅAz82 ƅUy115 ƅĞ46 ƅEz56 ƅOOz20 ƅOz59 ƅAAz27 ƅUAy086 ˿ƅEy106 ˿ƅOOz83 ˿ƅOz55 GIz11 GAz68 GU",
  "z90 GĞ66 GUEIz67 GUANz84 NGENy057 NĿy177 NGUANy068 PIz99Çz50 PUz81 Ɵz51 PEy102ÉOy066Éy145 MBIy06",
  "2 Ÿy122 MBUy047 MBEEyf188y072 MBEy172 MBOOz74 MBOz87 MBUUz61 ˿MBEz05 ˿MBOOz42 ˿MBOz32 KPIy092 KP",
  "Az74 KPUz44 KƟy108 KPEz12 KPOOz58 KPOz24 GBIy056 GBAy148 GBUy093 GBEEy107 GBEy071 GBOOz70 GBOy17",
  "1Êz23 NDIz29 NDAz25 NDUz91 NDĞ19 NDEy067 NDOOz64 NDOy152 NJAz92 NJUz49 NJĞ34 NJOOz82 VIz85 VAz51",
  " VUz73 VEEy085 VEy144 VOOy077 VOy164 ƊNy058 ƉNy170 NYUNy098 NYENz60 NYON¡2o?ѝqɚpɏqšpǉqɋp|pɭoӶњTE",
  "ENSzdЈTzЈёSzcЈѰzkЈǘzkЈёzЈŽLŜS¡41aADũ£çFiDAçȓAMiMIIMiBAiSINƊIYŌPEiBŌRAiEiFAiIiOiDņYŌǼiƈiŢiYAiUiJI",
  "IMiĊȒiQAAFiGAiƉiTUiNņVAiŦiGBEiZALiKPOiǂȎçFiDAçȓAMiMIIMiBAiSINƊIYŌPEiBŌRAiEiFAiIiOiDņYŌǼiƈiŢiYAiU",
  "iJIIMiĊȒiQAAFiGAiƉiTUiNņVAiŦiGBEiZALiKPOiǂgçF¼NGǛNERglVOWELgGEžϡg˱gӷMODIFIERgsGEMIΓgNUKTAhAƽIZϡ¡",
  "4gʻhƔhǬiɚhɏišhǉiɋh|hɭ¡4gIјԨofƫS¡785ȈDőSIYAQ Ӿtէtǉuɋt|tɭtǘuκucōtdFOucIFtcǉucɋt|YtɭTYtԛtiǬuiɚtiɏui",
  "štiǉuiɋti|tiɭtƔӀtjǬujɚtjɏujštjǉujɋtj|tjɭtjǘujκulōtmFOulIFtlǉulɋtk|tkɭTtLAKHxANmLAKH]mњKARORyANtƧ",
  "FIXěƔzěʌěήzě˩ěɍzěʁěΥzě|zěɭmƥCEHƏERmcԩ QUózɒvЂѤSmRUƟ]mњӵƔzøȶzøÓNӀmӵLAKH]¡76aOTTOŴÏYAQ ӾvǬwɚvɏwšvǉ",
  "wɋv|vɭvǘwκwcōvdFOwcIFvcǉwcɋv|YvɭTYvԛviǬwiɚviɏwišviǉwiɋvi|viɭvƔӀvjǬwjɚvjɏwjšvjǉwjɋvj|vjɭvjǘwjκwlō",
  "vmFOwlIFvlǉwlɋvk|vkɭTȞƼǔoӵњʌЈήzЈ˩ЈɍzЈʁЈΥzЈ|zЈɭzЈǘzЈɏ ёziЈʁЈǬӀzjЈǘoԩʡzEÏXTH¡194ξőŶHEŶɝ ȽuBEHuɢuĒ¡",
  "1uǼuZâułucTuȁuŢuũuɫuɮuɼuâuFEHuSADuƪuƴuΦuTEHvcHuɣuǚLuDADuZAHu˫uҟBEHzSS ɮzSS FEHzSS ƪ¡1uIјBEHʖɢ¡1ʖ",
  "Ŋ¡2ʖł¡1ʖȁʖŢʖũʖɫʖɮʖɼʖâʖFEHʖSADʖƪ¡1ʖΦʖTEHzcäTHʖɣ¡1ʖDAD¡1ʖ˫¡6uʃěɢ¡4Ȩł¡1Ȩȁ¡1Ȩũ¡1ȨɮȨɼȨâ¡1ȨSADȨƪ¡1ȨΦ¡2",
  "Ȩɣ¡1ȨDAD¡1Ȩ˫¡1Ȩҟɮ¡1Ȩҟƪ¡1uǐET˓BEHτ ɢ¡1τµH¡2τ´Hzc˓Tτ ȁτ¹F¡1τ ɫτ ɮτ ɼτ âτ FEHτÍDτ ƪ¡1τ ΦτÓHzc˓THτ ɣ",
  "¡1τ°Dτ ZAHτ ˫τ ҟBEH¡1zc˓ҟF¡1uLOOPěȽȨBEHȨɢȨĒȨŊȨǼȨZâȨłzcD TȨȁ¡1ȨũȨɫȨɮȨɼȨâȨFEHȨSADȨƪȨƴȨΦȨTEHzcDÔȨɣȨ",
  "ǚLȨDADȨZAHȨ˫¡5u+н BEHψɢψĒ¡1ψǼψZâψłzcǮ Tψȁ¡1ψũψɫψɮψɼψâψFEHψSADψƪψƴψΦψTEHzcǮÔψɣψǚLψDADψZAHψ˫¡52uOơ",
  "úR ɫȸ#TATWEELzǤ´H#Ē¡270"]

end RepoAtlas.CharName
