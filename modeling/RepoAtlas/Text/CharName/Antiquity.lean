/-!
# Names of characters: antiquity

Scripts from Linear B to Gunjala Gondi. The layout is that of
`CharName.tables`.
-/

namespace RepoAtlas.CharName

def antiquity : List String := [
  "aɦðB ӜB008 Au38 Eu28 Iu61 Ou10 Uu01°u45±u07²u14 DOu51 DUv7 JAu46 JE¡1u36 JOu65 JUu77¹u44ºu67 KIu",
  "70 KOu81 KUv0¿u13Àu73 MIu15Áu23Âu06Ãu24 NEu30 NIu52Äv5 NUu03Çu72 PEu39 PIu11Éu50 PUu16 QAu78 QEu",
  "21 QIu32 QO¡1u60Êu27Ëu53 RIu02Ìu26 RUu31Íu09 SEu41Ïu12 SOu58Ñv9Òu04Óu37 TIu05Õu69 TUu54Øu75 WEu4",
  "0Ùv2 WO¡1u17 ZAu74 ZE¡1u20 ZOv5 A2u43 A3u85 AUu71 DWEu90 DWOu48 NWAu29 PU2u62 PTEu76Ê2u33Ê3u68Ì2",
  "v6Ò2u87 TWEu91ȶ¡2i; B018n9m22m34m47n9m56m63n4m79m82n3n6n9¡34i ђM B100¿Nvd2 WOv4±ERv5 ĦIDwF¿REwMÐ",
  "èŜv6F EWEwMÊMv7FÎE-GOATwhM v8F SOWwMªARv9F¯WwM«LLu20 WHĚv1ȫLEYv2 ƐVEv3 SPŒv5 CYơUSjſΖ B127¹POv8¹",
  "NAKOjђM B130 OILv1ÙNEv2jſΖ B133©EPAv5ÀRIjђM B140 BƺZEv1 GƏv2v5 WOOLv6u50v1 əv2v3v4jſΖ B156 ǫO2jђ",
  "M B157v8v9 ČTHu60v1v2 Ľɬv3©MOURv4v5v6v7v8v9u70v1v2v3ÁNTHv4v6ÖEEv7v8v9u80v1v2v3v4v5v9u90v1µLMETt2",
  "20 ĻTǏOLv5 BùTUBu30 SƞRv1*v2v3 Sʏv4v6u40 λěĈRŝvi1v2®ARŝ FưEv3 λv5v6jſΖ B247²PTEjђM B248v9u51v2v3",
  "v4°RTv5v6v7v8v9sVĬEL B155ȧ00ȧ01ȧ02ȧ03ȧ04ȧ05ȧ06ȧ07ȧ08ȧ09ȧ10ȧ11ȧ12ȧ13ȧ14ȧ15ȧ16ȧ17ȧ18ȧ19ȧ21ȧ22ȧ26ȧ2",
  "7ȧ28ȧ29ȧ50zB305¡5aAEGEêʏӯ ɦwėh˒]¡4hњօoǘpκpcōodFOpcIFocǉpcɋo|YoɭTYoԛoiǬpiɚoiɏpišoiǉpiɋoi|oiɭoƔӀoj",
  "Ǭpjɚojɏpjšojǉpjɋoj|ojɭojǘpjκplōomFOplIFolǉplɋok|okɭT¡3hW| BAƿUNITkeĹSTÑBkiSˠkjǜRkiɏTHhiDRY M˟E Ĺ",
  "SThwLIƬDhiM˟E SˠpjǜRa˰ AđPHONőATǞȲ ѤzEʡzE ĘCHMAxɍzFTYzVE ёzVEӀzjFTYzVE TʽSxiǘxi˧xiԛxrFIVxjɰѰxsFI",
  "VzVEÐøRSxiǘxi˧xiԛxrFIVxjɰѰxrǘxr˧xǘ MNASrŋAEUMȲÈİƺrǛSPɜƔrhŋMŜrEPIDAUƲNȶrgǛSPIrCYRENAőʋĘCHMASrnEPI",
  "DAUƲNrǨEZENɜɍzêǘzêǘ ӵɎrŋMŜɜǘriMĬErhǛSPz ЁscROEZENɜFIFzê˧ ӵɎrŋMŜɜ˧rjǛSPz ԛzjÔRErjEPIDAUƲN FIVrpǨE",
  "ZENIsqHESPrqćYSTrqNAXrǛSPɜƔӀzk FIVrĔƣC ɍ MNASrfǐATɜ˧gɰɒ &q ӵɎgӞS &hdɚ ѤgcYęgcTʽgcĘCHMAgcOBOLgcʋO",
  "BOLShiɚgiɏhišgdMEǦTEgcKYùOS BASEgcŰRAgdOUNKIgcXĭESgcóABEicOURAgdɐMgcTRYBLŜ BASEgcZĩgcɰѤgcSINUSOI",
  "DgcřICʇacNƒSMA¡1acROŴ SEXǔSgcUNCIAghSEMidXTULgjDIMIĖ gdSILIQUgcDENARIUSgiƬgfSĭERTgfDUPONDgdAgcɄU",
  "RŏaASCIA;¡3a˰;ÒU ƶ¡47aƢşOS²SC¥PEDĭRŐrLUŹ ɔqhTATTOOqCAPʈrHILDqWOŴqHELMETqcGAUNTLqTIñp*pªWqǄELDqCL",
  "UBqŴACLESsTTƋqSAWqLIDqBOOżîqćƠTRYÈíqDƐUMqčBqSɧqCOLUMNqBEEHšqǄPqərœqBǰS¼GqCATqưqEAGLEqDOVEqTUNNYq",
  "BEEqcƥƂTRqVŚqƜYRUSqROǀTEqLILYqOXʙqFLUTEqŁǙqcǐâq% AXEqWAVY BìqӶOBLIƫж¡130aLYCŐ!AhEhBiHhGhDhIhWhZh",
  "THhJhKhQhLhMhNhMMhNNhUhPhKKhRhShTiThANhENhHhX¡3aćŐ!AhP2hDhLhUUUhRhLDhA2hQhBhMhOhD2hThSHj2hShC-18",
  "hUhNNhXhNhTT2hPhSShIhEhUUUUhKi2hNDhUUhGi2hSTj2hNGhIIhC-39hTThUUU2hRRhMBj2j3j4hLD2hE2hUUU3¡15bOPǞ",
  " EPACTӀS]n?օnӿvκvcōudFOvcIFucǉvcɋu|YuɭTYuԛuiǬviɚuiɏvišuiǉviɋui|uiɭ¡4aɯŠů!AlBElKElDElElVElZElHElc",
  "TlIlKAlELmMmNmSHlOlPElǃlKUlERmSlTElUlEKSlPHElcKlEFmRSlĉlIIlUUlĬd.NUżäƔmɍmǘm˧¡9d Šů!YElNORʅN TSEl",
  "jǊaGOǜC!AHSAhBãKANhGIBAhDAGShAIHVUShQãTHRAhIUJAȐGLhǜUTHhEIShKUSMAhŨUShŴNAhNAUTHShJERhURUShPãTHRA",
  "hɭTYhƮDAhSAUILhTEIWShWINJAhFAIHUhIGGWShHWãhOǚLhɭ ё¡5aɯơMIC!ANlBURlGAIlDOIlElZHOIleDlZ÷lcDZIlIlKƎ",
  "lLEIlŻOEleNlVOOIlƟIlcRlSIIlTAIlUlĉRYlǅOIndCHlYRYmERUlOmOlEFșlTSIUlǻlcYoImATlIElYUmAlIAaӶɯơMIC!AN",
  "vDOIvZ÷vNENOEvSII¡5aUĽIǞ!ALPAjɃjGAMLAjŦj˜jHOjWOjZįjcHOjTETjȂjŢjɾj˻jźjDHALjƈjZUjSAMKýINjPUjSàjQOP",
  "AȗǂjǚƆj˫jTOjIjUjSSU¡1i ʏШRaɯɸɜ& AoIoUoKApUoGApUoXAoCAoJApIoTApUoDApIpUoǚoPAoBAoFAoNApUȞpIpUoYAoV",
  "ApIoRApUoLAoSAoZAoǂpSAoHA¡4oAUưAZDAAy-2yHAoXǂüǜYAoDAHYAAǸx-2oBAGApUUMŞmʏШRmӾtǬuENuκtё¡42aDESĨT£˿",
  "IpEpAqHpOqOkϺIqEqArHqOrOkAYkOWkWUkYEEkHkƟkcBkcTkcDkcCHkcJkKAYkcGkEFkVEEkİkǛEkESkZEEkīkȃEkERlLlMl",
  "NmGkOIkEWi%!˿IpEpAqHpOqOkϺIqEqArHqOrOkAYkOWkWUkYEEkHkƟkcBkcTkcDkcCHkcJkKAYkcGkEFkVEEkİkǛEkESkZEE",
  "kīkȃEkERlLlMlNmGkOIkEWaǂVŐ!ƟPiTOTiKICKiFEEiTɗiSOjUREiCHURCHiYEAiHǲiBIBiDEADiGAGiVOWiǛYiZOOiM˟EiJ",
  "UDGEiWOEȒ-ņLƑiMŗiIFiEGGiôjDOiONiWOOLiƚiAHiROARiƈiĚiáiŒiUPiOAKjOZEjILiAWEjREiORiãiERRiAƼYięiŐiYEW",
  "aOSŴYA!ȽiBAiTAiJAiXAiŦiDEELiRAiSAjHIINiDņCAYNiGAiFAiQAAFidKȓANiMIINiNUUNiǼȒiYAiAiEiIiOiUiAAiEEiO",
  "O¡2hϋjւj|jɭ¡6cá£AjIkNjHiăiĈidEHiEjINȒjYAiIiKAicEHiKYAȓiMAiNAiOjINiPAicEHiS˅TAicEHiǩidEHiTǂicDiUi",
  "WAiŦicGiZAȕ¡4ȎAjIkNjHiăiĈidEHiEjINȒjYAiIiKAicEHiKYAȓiMAiNAiOjINiPAicEHiS˅TAicEHiǩidEHiTǂicDiUiWA",
  "iŦicGiZAȕ¡4aELBAƾ!AiBEiCEjŌDEicNiDŌEIiEiFEiGEjJEiŌIiJEiKEiLEjLEiMEiNEjAjJEiOiPEiQEiREjREiSEjŌTEj",
  "ŌUiVEiXEiYiZEjŌcGkȾiKHE¡8aCAUCASɜALBANŐ!ALTtBETtGIMtDATtEBtZARLtEYNtZHILtTAStĈtYOWDtZHAtIRBtǂtŪt",
  "IƉtXEYNtDȀtćtJHOXtKARtLYITtHEYTtQAYtAORtċYvIuYAYtMAQtQARtNOWCtDZYAYtǂKtJAYNtONtTYAYtFAMtDZAYtĈTt",
  "ƠtľYStRATtSEYKtVEYZtTIWRtǅYtIWNtCYAWuAYNtYAYDtPIWRtKIW¡11s CITϡaVITHKUQI£AlBBEmElCEmHElDEmHElEIl",
  "ElFElGA¡1lHˈImJElclKAlLAmLAlMElNEmJElOlPElQAlRE¡1lSEmHElTEmHElUlVElXE¡1lYlZE¡1j%!AlBBEmElCEmHElD",
  "EmHElEIlElFElGA¡1lHˈImJElclKAlLAmLAlMElNEmJElOlPElQAlRE¡1lSEmHElTEmHElUlVElXE¡1lYlZE¡67aɦðA¥AB00",
  "1p2p3p4p5p6p7p8p9o10p1p3p6p7o20p1qFqMp2qFqMp3qMp4p6p7p8m028BmB029o30p1p4p7p8p9o40p1p4p5p6p7p8p9o",
  "50p1p3p4p5p6p7p8p9o60p1p5p6p7p9o70p3p4p6p7p8p9o80p1p2p5p6p7m100-102mB118o20m120BmB122p3o31AqBm13",
  "1CmB164o71o80pÞ1m301o2o3ȝ5o6o7oÞApBpCn10o1o2o3ApBpCȝ5o6o7oÞn20o1o2o3ȝ5o6o7oÞn30o1o2o3ȝ5o6o7oÞn40",
  "o1o2o3ȝ5o6o7oÞn50o1o2o3ȝ5o6o7oÞn60o1o2o3ȝ5o6o7oÞn70o1m400-VASoe1oe2oe3oe4oe5oe6oe7oe8oe9ne10oe1o",
  "e2oe3oe4oe5oe6oe7oe8m501o2o3ȝ5o6oÞn10o1o2o3o5o6n20o1o3ȝ5o6o7oÞn30o1o2ȝ5o6o7oÞn40o1o2o5o7oÞn50o1o",
  "2o3ȝ5o6o7o9n63ȝ5o6oÞn70o1o2o3ȝ5o6o7oÞn80o1o2o3ȝ5o6o7oÞn91o2ȝ5o6o8m600o1o2o3ȝ6oÞn10o1o2o3ȝ5o6o7oÞ",
  "n20o1o2o3ȝ6o7oÞn34o7o8n40o2o3ȝ5o6oÞn51o2o3ȝ5o6o7oÞn60o1o2o3o4¡9m701 Ao2 Bo3 Do4 Eo5 Fo6 Ho7 Jo8 ",
  "Ko9 Lp-2 L2q3 L3q4 L4q6 L6n10 Wo1 Xo2 Yo3 Ηo4 ABBoc5 o7 DDn26 EYYYn32 JE¡10m800o1o2o3ȝ5o6o7¡24Ԇ%",
  "¢AAjԳЅβ˕vqɒ ȔAEl$ BlBʭ¡1lDZҒvՋwɈmEZHҒmʰnɘr)ʃlӛElcшӛɱlFĤҒlưS əl$ GlGʭlg$ lHиl$ HlHĤʭleҟJи)lLSҒmiZ",
  "m#BELTlg$ leLՋ)mEZHpՋlѱYt#BELTlOиl$ OElшΗlQlѱR#˿LEGzLEG)Ӛ ɘlRʰnFŞɘl$ RlTCҒ#ɈmSҒvՋmīҒmՋlfV#'¡1l$ ",
  "YjԫиjtӛjBILABɛCůKjiDĥjȓǙjgALVEOūjӚ CůKՋȔS#Ɉ¡69aCYPRŝ ӜArErIrOrUrJA¡2sO¡1rKӉrLӉrMӉrNӉrPӉrRӉrSӉrTӉ",
  "rWAȡIsO¡1rXAsE¡3rZA¡2sOaIMơɛñųCʪHrBİrˬr˙HrHErǼrZɀrɕrdTrȂHrţHr˼HrźrƈrSAMEKHrɀrPErΣrQOPHrɺrɾrTAW¡1",
  "q Ѫ &rӾyʌɚzENzκyԛȩӀyjǘaPALMYRENEʪHkBİkˬk˙HkHEkǼkZɀkɕkdTkȂHkţHk˼HkźkϨƈkdkSAMEKHkɀkPEkΣkQOPHkɺkɾkT",
  "AWj (ӳFLEUƺkr'kӾrԽsšrǘsκaNAB÷EAN!ϨæPHkfkϨBİkekˬk˙HkϨHEkckǼkZɀkɕkdTkϨȂHkekϨţHkekϨ˼HkgkϨźkdkϨƈkdkS",
  "AMEKHkɀkPEkΣkQOPHkɺkϨɾkekTAW¡8j ӾrԽklCRUCIɎ kњɍrǘsκrԛ¡48aHAǥNʪHhBİhˬh˙H-ɺhHEhǼhZAYNhɕhdThȂHhţHh˼",
  "HhźhƈhSAMEKHhAYNhPEhΣhQOPH¡1hɾhTAW¡5g ӾoɍoǘpκoԛaPHOENICŐ!ALFlBETlGAMLlĔTlHElWAUlZAIlHETlcTlȂlŢlũ",
  "DlźlƈlSEMKlâlPElSàlQOFlROSHlɾlǕk ӾsǘtκsԛsǬtɚ¡3lʏӯaLYĖN!AhBhGhDhEhVhIhYhKhLhMhNhOhRhSShThUhFhQhSh",
  "TThANhENhLYhNNhC¡5g ЅUū]¡64ażOIǞ¶ĩGLYƣC!AwEwIwOwYAwWAwBAy-2wPAwMAwNAy-2xEy-2wRAy-2wLAwŦwcHwSAy-2",
  "xEwKAwQAwTAy-2xEy-2xOwDAv; VIDJzDJ-2jCURSš!ArErIrOrYArWArBArPArMArNAsErRArLArŦrcHrSArcқrSErKArQA",
  "rTAȡOrDA¡4q яN ĠVĢTWELFTHSzȲʡrLOGΖ RMTz IMNrӾyʌɚy˩šyʁɋy|yɭyǘzκzcōydFOzcIFycʁcɋ¡2yԛyiʌiɚyi˩išyiʁi",
  "ɋyi|yiɭyƔӀyjʌjɚyj˩jšyjʁjɋyj|yjɭyjǘzjκzlōymFOzlIFylʁlɋyk|ykɭTyjԛyrʌrɚyr˩ršyrʁrɋyr|yrɭrԩ TWELFTHzȶ",
  " TWELFTHSzj ήzj ˩j ɍzj ʁj Υzj |zj ɭzjÓNaŦROSHǜ!AkӃItUtӠ¡1tEtO¡5rLĤTH]l& +ʤ@nҚnѷk!KˈGAmHA¡1lCˈJA¡",
  "1lƉlǪnHAlēnHAlƆlTˈDˈNAlPˈBˈMAlYAlRAlLAlVAlǂmSAmAlZAșlKKAlTTǚoAlVHA¡2k¥Ā,nCAǯnɉ¡4lЊl?ƔmǬnɚmɏlӿtκs",
  "ԛwѰDlԩʡ¡7lԯėx%УxgyƵɄȫxŴGåMxLOTUSx˚xȌxɦS¡7aɯϽñBŐ!HEs˼HsɕsźsQOPHsǼsɾsɺsBİsTAWsSATsţHsƈsKɕsΣuMEKHsF",
  "EsȽtYNsDHADHEsˬs˙HsGHAYNsTİsZAYNsDHæTHsȂHsǚWuİr Ӿz˧vERőř˷Re϶ñBŐ!ŊsũsłsɫsƪsǼsES-2sƴscBscTsES-1sŢs",
  "ɮsɣsSADsES-3sFEHsȽtINsDADsGEEMsĒs˫sǒsZâsǚLsȁscTHsZAHr ӾzǘzTκ¡32aŴIĈEANʪHlBİmdHlˬmeHl˙HlHElǼk¥UDk",
  "!ZɀmeHleJmeHlɕldTlȂHlţHldXldKHl˼HlfDHlgTlźlƈlSAMEKHlɀmdAlPElFElΣlQOPHldXldQHlɺlɾmdSlTAWk ABːϡ,y@",
  "¡4lӾsɍsǘtκsԛlԯʂxFLEUƺx+ȭÙǜNȭxozTxҲxɦʜER¡9aûǌN!ýjOjAOjNjANjEkEiEjEiOjOiIjIiUjUiKEiXEjYEjVEiGEjGEj",
  "ŌCEiJEiTEjŌDEjŌTTEiPEiFEiBEjŌNGEkYEkVEjEjYEjNEiMEicHiYYEjEiVEiREiLEiSEiZEiǃicZiSHYEjǃic¡3h ABːϡa",
  "TINY Ҳϙɰė ӘƖȥҲaz˽ ҲgmɰėϙҲgmʋɻSϙɰɻgmɰɻϙʋɻSȈSCRIPʇäɶHŐʪHxBİxˬx˙HxHExǼxZɀxɕxdTxȂHxţHx˼HxźxƈxSAMEKHx",
  "ɀxPExΣxQOPHxɺxɾxTAW¡2w Ӿzɪȶzɪ ήzɪ ˩ɪÓNzɪ Tκzɪ ԛzɪȲӀqHLAVIʪHwBİwˬw˙HwHEwǼ-ɀ-ɺwZɀwɕwdTwȂHwţHw˼Hwź-",
  "QOPHwƈwSAMEKHwPEwΣxHINwTAW¡5v Ӿzāȶzā ήzā ˩āÓNzā Tκzā ԛzāȲӀaPƽʄPAHLAVIʪHqBİqˬq˙HqHEqǼ-ɀ-ɺqZɀqɕqȂH",
  "qţHq˼Hqź-QOPHqƈqSAMEKHqPEqΣrHINqTAW¡7p Ѫ]qҷqӎ#˗zȷ¡12qӾxǬyɚxɏxǘyκxԛ¡80aɯǫKIC!ўAlcѸuElўIlcѸtElўOtE",
  "ժABժAEBիAGժAEGիADժAEDsEZժAYժAEYիAEKleѸlcўOիALժAELsELTtMsANtENիĥիENCիENYleѸtîlcўEldѸ AlўEPsOPsICs",
  "ECժAQժIQժOQժARժAERtStEStSHleѸlcўEիATժAETիOTsBô¡55eHǲARɜ$!ArAqEBqAMBqECrNCrCSrDqìqEqɆE EqEErFrGsY",
  "rHqIrIqEJrKqAKqUNKqELsYrMrNsYqOrOqNIKOLSBURG OEqdRUDIɬAqOEEqEPrMPrRqcϺqESsZrTrNTrTYrCHqUrUqNIKOL",
  "SBURG UEqdRUDIɬAqEVrZsSrNT-ѫ&qUS¡13o%!ArAqEBqAMBqECrNCrCSrDqìqEqɆE EqEErFrGsYrHqIrIqEJrKqAKqUNKq",
  "ELsYrMrNsYqOrOqNIKOLSBURG OEqdRUDIɬAqOEEqEPrMPrRqcϺqESsZrTrNTrTYrCHqUrUqNIKOLSBURG UEqdRUDIɬAqEV",
  "rZsSrNT-ѫ&qUS¡7oӾvɍvǘv˧vԛzѰDańIFIÌHśYA!AqBAqPAqTArTAqJAqCAȠqcKqFAqDArDAqRArRAqZAqSArHAqKAqGAqLAq",
  "MAqNAqWAqcKIƆ qYAqcKIƆ qƄrYAqVApϝ AwIwUwEwOp]ÍKINrNA KHOƆp¥ŅBAHAYsǒåuNAuSSI¡8qʻrƔrԽsšrǉsɋr|rɭ¡29",
  "4acRUMI ?OgǬhɚgɏhšgǉhɋg|gɭfӿnκncōmdFOncIFmcǉncɋm|YmɭTYmԛmiǬniɚmiɏnišmiǉniɋmi|miɭfԩʡsѤsǜRDoӞS¡1aY",
  "EZIDI!ELIFhBEhPEiHEhcThSEhCIMicHjcHhHHAhXAhĒhcZhR˃ZAhJAhSINicHiADhcDhTAhZEhEYNhdXHhFAhVAj ӵɎhƪhc",
  "KicHhcGhũhMIMhƈhUMhǼhOWhEWȐYhYOThET¡1g Ӷ˱]rcMADDhϫϡ¡2g!ũʬhYOTԐ,¡78aɯSOGĖNʪHmfϨmBİmeϨmˬmHEmcϨmǼmZ",
  "ɀmɕmȂHmţHm˼HmźmƈmdϨv#< ʃmSAMEKHmɀndLǙΓAmPEmΣmfϨx#< ʃmɺ-ɀ-˙HmɾmTAWmdϨv#< ʃl Ӿtէtǘuκucōtԛmԩʡmӓɀ-˙H",
  "¡8aSOGĖNʪHiBİiˬiŌǼiZɀiɕiȂHiţHi˼HiźiƈiSAMEKHiɀiPEiΣiɺ-ɀicSHiTAWiFİiLīh¸DEƠDĥ ɾiӶɉsҲ@sė,sҲ,s˘,x@sɘ",
  ",w@sf˿sɺ@sϿ@iӾpǘqκpԛiԯʋ<ȫSzȫSȷSuϥȷuʋϥSȷSuɒУȷ¡22aɯUYGHURʪHlBİldˬ-HlǼlZɀlϨɕlȂHlţHl˼HlźlƈlSAMEKHlPE",
  "lΣlɺlɾlTAWlLīk Ӷė,y@vҲ,zėS@lԯĀxʋĀSzOʛxfɏ¡38aċRASMŐʪHlf% lBİlˬl˙HlHElǼldɈělZɀlɕlȂHlţHl˼HlźlƈlSAME",
  "KHlɀlPElɺlɾlTAWk ӾsǬtɚsɏsǘtκsԛ¡20aELYųCʪHiBİiˬi˙HiŌǼiZɀiɕidTiȂHiţHi˼HiźiƈiSAMEKHiɀiPEiΣiQOPHiɺiɾ",
  "iTAWh ӓZɀ-ȂH¡9aăHMI¥ԕjҚjѷjJIHVрjdUPADHŴg!AiAhIiIhUiUhӠqRpLqLhEhAIhOhAUhK˃G˃ƄhC˃J˃ƉhǪȕhēȕhƆhT˃D˃N",
  "AhP˃B˃MAhYAhRAhLAhVAhǂiSAiAȐhűhdɯTAŽ LrƼrNƆgԏpcBHATǡROLU pIqIpUqUpӠyRxLyLpEpAIpOpAUiIưAh˚hȌhԯėtd",
  "+ tɦtĐSɄȫtLOTUS¡4hњօoǘpκpcōodFOpcIFocǉpcɋo|YoɭTYoԛsѰDhʻiƔiǬjɚiɏjšiǉjɋi|iɭh& ɯTAŽ Њg!ɯTAŽ ϺExOgӃɯ",
  "TAŽ ϺEzϺOg!ɯTAŽ ű¡9g њ˹RaKAIǜ¥ԕjҚjѷg!AiAhIiIhUiUhEhAIhOhAUhK˃G˃ƄhC˃J˃ƉhǪȕhējDŇchcRhƆhT˃D˃NAhP˃B˃",
  "MAhYAhRAhLAhVAhǂiSAi˂ԏpIqIpUqUpEpAIpOpAUhҖjNUKTAhՆhhENUżhcNUɪhѪ]hȑh˚hȌhҵӠ¡10hњ&,¡2aSORA SOMƠG!SA",
  "HncTncBncCncDncGncMȜGncLȜncVncPncYncRncHncKncJȜYncnEEHnIHnUHnOHnEHnMAE¡7mϋoօ¡6aĈKMA¥ԕjҚjѷg!AAhIh",
  "UhEhKAAicHhcGicHhcNGhcCicHhcJicHhcNYhcTTjcHhcDDjcHhcNNhcTicHhcDicHhcNhcPicHhcBicHhcMhcYYichcRhcL",
  "hcWhcShcHgӃApIqIpUqUpEpAIpOpAUpOIhO]hAU]hЊhMAAYYAA¡1hʻiƔiǬjɚiɏjšiǉjɋi|iɭhѪ]h˚hȌhәg!LHAAgcӃpEIg!V",
  "AA¡8aMAHAJANI!AjIjUjEjOjKˆGˆCˆJˆƉjǪșjēșjƆjTˆDˆNAjPˆBˆMAȗȖjVAjSAȕjƼi¥NUKTAjՆjѪ]jӓSHRI¡9aǂRADA¥ԕkՕ",
  "h!ýiIjIiUjUiӠrRqLrLiEiAIiOiAUiֆēkņƆiT˅D˅NAѼуAiYAiRAȓȖiV˄jSAj˃ԏqIrIqUrUqԠyLzLqEqAIqOqAUiҖkAεňJIHV",
  "рkdUPADHŴiOMi˚iȌiՆiSEɵǤjìHI]i& NUKTAiЌMODIFIER]iEXǥ Χϝ]iSUǥ]iҵPƸHǚŶRA Ei& ӑԕiʻjւj|jɭiEKAMic&ÏDDH",
  "iɔϿiɇINUϠ&iѪ]-1r2¡1bINHå қ?ƔrԽsšrǉsɋr|rɭqӿyκycōxdFOycIFxcǉycɋx|YxɭTYxԛzEӀ¡11aKHOJKI!AiAhIhUhEhAI",
  "hOhAUhK˃GAiG˃ƄhC˃JAiJA¡1hƉhǪȕhēȕhƆhT˃DAiDD˃NAhP˃BAiB˃MAhYAhRAhLAhVAhSAȐhűgԏpIqIpUpEpAIpOpAUhӱjЊj",
  "NUKTAjǂēhcDANhȌhʏӯhѪ]hȑhՆh&ÑKUN¡65aMULǔI!AiIiUiEiK˅GA¡1ȕ¡1iC˅JAjJA¡1iƉiǪkņēkDAkņƆiT˅D˅NAѼBA¡1ȕiM",
  "AiYAiRAȓiVAiSAȒiƼȕh Ѫ]¡6aKHǯWADI!AlAkIlIkUlUȘAIkOkAUkKˇGAlGˇƄkCˇJAlJˇƉkǪmňēmDAkƼkDDňƆkTˇDˇNAkPˇB",
  "AlBˇMAkYAkRAkLAkVAkǂlˆ ӱkӡAsItIsUtUȡAIsOsAUk& NUKTAmЊ¡5kքl|lɭ¡6aŁNǚ¥ӶҚ,lìRAĂDUkՕ¡1h!ýiIjIiUjUiӠq",
  "L¡2iEEiAI¡2iOOiAUiֆēkņƆiT˅D˅NA¡1ѼуAiYAiRA¡1ȓȖ¡1iV˄jSýȒ¡1aӶĂDU@aŁNǚ¥NUKTAkAεņӡAqIrIqUrUqԠ¡2qEEqAI",
  "¡2qOOqAUiҖ¡2iOM¡6iAU¼NGTH]¡5i&ÈUTAh!VˡҚoȑjOąőRRqLLhլzL¡2aӶŁNǚϋtƔtէtǉ¡3r!AsKAsNAsVIsPA¡139aNEWA!A",
  "gAfIgIfUgUfӠoRnLoLfEfAIfOfAUfKˁGˁƄȐfCˁJˁƉȐfǪȐfēȐfƆfTˁDˁNˁPˁBˁMˁYAfRˁLˁWAfǂgSAgAfHAeԏțInUoUnӠwRvL",
  "wLnEnAInOnAUfҖhԕhҚhѷhNUKTAhAεHAhϨҚfOMfSIDDHIf˚fȌf˖fGAPʜERfՆfʻgƔgǬhɚgɏhšgǉhɋg|gɭȌ˖fƥCEHƏER]¡1fINS",
  "ERʇ &fƾDHI]e!VˡҚe¥JIHVрhdUPADHŴ¡30aTIRHUTA¨JIh!ýiIjIiUjUiӠrRqLrLiEiAIiOiAUiֆēkņƆiT˅D˅NAѼуAiYAiRA",
  "ȓiV˄jSAj˃ԏqIrIqUrUqԠyLzLqEqϺEqAIqOqϺOqAUi& ԕkՕmưAkNUKTAkAεņGVîiՆiOM¡8iʻjւj|jɭ¡166aSIDDŃ!ýiIjIiUj",
  "UiӠrRqLrLiEiAIiOiAUiֆēkņƆiT˅D˅NAѼуAiYAiRAȓiV˄jSAj˃ԏqIrIqUrUqԠ¡2qEqAIqOqAUi& ԕkՕmưAkNUKTAkSIDDŃi˚",
  "iȌiSEɵǤȭsĀiREPETIʇ]-1u2u3iϧÓXT]iѪ]#ǧDĥ)U-ѫҪSzeϦ ĐSCrrRAYSzkǗ +zkǗ Іq +ʤx#RAYSqÚĐSɄSrkІrnɹRUroSEP",
  "TrϥS)RAYSzʋENɆUƵzlɏh!ή-ϥ ӵIjtWOzø IIiӵUhlӃz UU¡34ȉDI!AgAfIgIfUgUfӠoRnLoLfEfAIfOfAUfKˁGˁƄfCˁJˁƉfǪ",
  "ȐfēȐfƆfTˁDˁNAfPˁBˁMAfYAfRAfLAfVAfǂgSAgAfHAfűeԏțInUoUnӠwRvLwLnEnAInOnAUfӱhѷȗMAhòHAϣf˚fȌfՆf& HUVA¡",
  "11fʻgƔgǬhɚgɏhšgǉhɋg|gɭ¡6cNGƐêBIRGA#ҪkҮBIRGAk+ BIRGA#ҪkpІkiBIRGAÚkiҮBIRGA#yȑkӑBIRGAyÚҪkSWIRL BIRG",
  "Av#Ҫwȑkwѱ¡19aǓRI!AhAgIhIgUhUgEgAIgOgAUgK˂G˂ƄgC˂J˂ƉgǪȒgēȒgƆgT˂D˂NAgP˂B˂MAgYAgRAgLAgVAgǂhAȏgƼfc¥AN",
  "USVAiѷgӡAoIpIoUpUoEoAIoOoAUgҖiNUKTAf!қŦf Ն¡6gʻhƔhǬiɚhɏišhǉiɋh|hɭ¡54aAHOM!KˁƄgAfTAfcӵfPˁBAfMAfJAf",
  "ĈfcTfRAfLAfSAfƉfHAfAfDˁGAfcӵfGHAfcBfcJfӵBA¡2e Ԗа»yRAycLIGAʆ fӡoAțInUoUnEnAWnOnAIoMf& KŕER¡4fʻgƔg",
  "Ǭhɚgɏhšgǉhɋg|gɭfӿnκf&¤ѪhhhRULAIe; VIe!CAfǪȐfēȐfƆfű¡185aDOŁ!AhAgIhIgUhUgEgAIgOgAUgK˂G˂ƄgC˂J˂ƉgǪȒg",
  "ēȒgƆgT˂D˂NAgP˂B˂MAgYAgRAgLAgVAgǂhSAhAȏgƼfԏoIpIoUpUoӠxRoEoAIoOoAUgӱiѷkưAiNUKTAgՆ¡100aWñƃCITI£ƄAoA",
  "oWIoYUpApOoIIoUUoEoOoîoGAoKOoENYoYUJoUCoENNoODDoTTEoƈGoDAoATpMoBUoPUoHIYOpOLOqRRpARoSSUUpIIoVIYO",
  "m%!ƄAoAoWIoYUpApOoIIoUUoEoOoîoGAoKOoENYoYUJoUCoENNoODDoTTEoƈGoDAoATpMoBUoPUoHIYOpOLOqRRpARoSSUUp",
  "IIoVIYOmʻnƔnǬoɚnɏošnǉoɋn|nɭmӿuκucōtdFOucIFtcǉucɋt|YtɭTY¡12mOMaDšS AŧU!AnAmInImUnUmE¡2mO¡2mKˉGˉƄm",
  "CˉJA¡1mƉmǪ¡1mēoHAmƆmTˉDˉNAmPˉBˉMAmYAnYAmRAmLAmVAmǂnSAnAmHAműmZAlԏuIvIuUvUuE¡1uAIuO¡2mӱoԕoHåNTAmЊ",
  "mƧFIXěNAƽ &mŹɛYAmIјRAmgŹm& NUKTAm+ ˚mGAPʜERmϧÓXT]¡9mʻnƔnǬoɚnɏošnǉoɋn|nɭ¡70aNìINAĽI!AnAmInImUnUmӠ",
  "vR¡2ȚAImOmAUmKˉGˉƄmCˉJˉƉmǪoHAmēoHAmƆmTˉDˉNAmPˉBˉMAmYAmRAmLAmVAmǂnSAnAmHAműmƼlԏuIvIuUvUuӠzőRR¡2uE",
  "uAIuOuAUmӱoѷqưAoAεHAoSIDDŃmɔϿmҵPƸHǚŶRA E¡27aZëBAZðϾ!AqӃIzUEzUzEzOEzOzAIzAUzӛIxLĤTH]q!KˋGˋƄrCˋJAr",
  "ƉrǪtHArētHArƆrTˋDˋNArPˋBˋMArǩtHArDZAtHArdsAr-ArYArRArLArVArǂsSAsArHArKǋqϑ¯NSONï]rҖtԕzĂDU#ҪzjtҚtѷ",
  "rCLUǍR-INITŏ!RAzĸAL!YAzĸAL!RAzĸAL!LAzĸAL!VArIјɔ]rgɆśq] ΰsǂDse+ s˿ΰqϔä+-ɦD ɔ]roɆśrǑ˹R¡8aSOYOMBO!A",
  "hӃIqUEqUqEqOrEqAIrUqӠyLoLĤTH]h!ֆēkņƆiT˅D˅NAѼуAiǩkņDZAiZŇAi-AiYAiRAȓiV˄jSýȒiKǋh¥JIHVрkdUPADHŴiCLU",
  "ǍR-INITŏ!RAyLAyǂzAiϨԖ Gz Kz NGz Dz Nz Bz Mz Rz LzÎz Sz -Ai& ՕiGEžϡiǑ˹Rh] ΰjǂDje+ jPLUTAh ɔ]#MƘ)S",
  "UN)І FũExfvNiǙžAL]-1s2¡13aĆADɜSYűBICSÃTǠIK¶zIK¶IzIK·zIK·OzIK´zIK´AzIKÎRIzIKÎRIIzIKÎROzIKÎROOzIKÎ",
  "RAzIKÎRAAtSPEvIvOvAacPAU CŘHAU!mKAmLAmMAmDAmZAmVAmƄmHAmGAmŦmSAmBAmCAmTˉNAmƢmRAmFAmĈmAȚImOmUnAmIA",
  "mϨPsKsTsMsNsLsWsNGsYl Ƹɟʉ ɨwEmƾDHI ԫmƸɟʉ ɨϑyfmgƾDHI ԫtʉ ɨwEx ɨϑyfmMID-LEVELʧmԫ ѶmMID-LEVELʧ ɨϑzg",
  "EmŲ-Fèɟʉ ɨzƔmԫmŲ-Fèɟʉ ɨϑzgƔmgԫ¡263aBHAIKSUKI!AlAkIlIkUlUkӠtRsL¡1ȘAIkOkAUkKˇGˇƄkCˇJˇƉkǪmňēmňƆkTˇD",
  "ˇNAkPˇBˇMAkYAkRAkLAkVAkǂlSAlˆԏsItIsUtUsӠz RRz L¡1ȡAIsOsAUk& ԕmҚmѷoưAmAεň˚kȌkʏӯkGAPʜER-1v2¡10kքl|",
  "lɭkcњOrԽsšrǉsɋr|rɭrǘsκscōrdFOscIFrcǉscɋr|YrɭTYkёS UNIT]¡3aŵĉN ɔ]h]ȴDh!K˅GAicNiC˅JAiƉiT˅DAiNAѼBAi",
  "MAiǩkņDZAiWAiZŇAi-AiYAiRAiL˄jAȒiA¡2hÑB˹D!KAtHAsGAscNsCAtHAsJAsƉsTAtHAsDAsNAsPAtHAsBAsMAsǩuHAsDZA",
  "sWAsZHAtA¡1sYAsRAsLAsǂtAsHAsAiӡAqIqUqEqOiӱkԕ¡73cSñM ĿDI!ApAoIpIoUpUoE¡1oAIoO¡1oAUoKˊGˊƄoCˊJˊƉoǪȠ",
  "oēȠoƆoTˊDˊNAoPˊBˊMAoYAoRAoLAoVAoǂpSApAoHAoűoKǋoJƉoǥnԏwIxIwUxUwӠ¡3wE¡1wAIwO¡1wAUoӱqѷqNUKTAqϣȠŪTAo",
  "ЊoREƢpA-Kñ¡8oʻpѝqɚpɏqšpǉqɋp|pɭ¡6aGUNJå ĿDI!ApAoIpIoUpU¡1oĝAI¡1oOOoAUoYAoVAoBˊMAoKˊTˊLAoGˊDˊNAoCˊ",
  "ǪȠoűoJˊēȠȟAoPˊcoRAoSAnԏwIxIwUxU¡1wEEwAI¡1wOOwAUoӱqѷoЊoOM¡7oʻpѝqɚpɏqšpǉqɋp|pɭ¡310aMAŤAR!KAiGAicNi",
  "PAiBAiMAiTAiDAiNAiCAiJAiƉiciRAȓiVAiSAiAh¨GKAiҵIqUqEqOiPASǇBîiϧ Ѫ¡183aLISU!YHA¡15aTAŽ ԩ ή-ё-ì-TWĥ",
  "IİtfƔ-ё-ì-ǉte|tcǉTY-ɏtcļǟtЁ-SˠpЂ|IİSvdǉTY-ɏpɰTWĥIİtѬTH-1zNTH-2tǘTHt|HpЂTWĥIİSvdѬpɰFIFTHtѤtɒ-1y2p",
  "ЂѤSp^SąɟķǤ KIIZHg& NELiCEVITUiAAZHAAKKUieUZHihMUUViŧUNIiPȿKKUiMUKŧUNIiKAACUiƛAMjONiǺAAKANiPAñMiK",
  "UZHIiVELIgWET CULTIVϠ&goDRYgcŪDgcƽTÇNgcǥDIʇäĐDITscNUɪgcCδTfc)ODDfc SƠTgcTOTALgcŘPOSSĬŜgcʂʆʟg&ÂǚL",
  "IYAiVAKAIYñA¡13gԯϧÓXT"]

end RepoAtlas.CharName
