/-!
# Names of characters: punctuation

Punctuation, letterlike signs, arrows and operators. The layout is that of
`CharName.tables`.
-/

namespace RepoAtlas.CharName

def punctuation : List String := [
  "aĢɹbfMbN ΫbgMaiή-ơ-anɏanǉagFIGUREagӘƖhǜaȏIRagZĩÙDTHlNON-˹Rlga(-TO-']a'-TO-(]aϫagNON-ĄAɤ aFIGUREʚ",
  "afENbfMa[ȫa+ < ɦcfŲȄϻԍas'alϻ¾W-9hnɗ-ѦDal( +an'al+¾W-9cnɗ-ѦDaDAGGĪg+ aBǰıgЅβaɰė¼àRalǬa[ ġIƩSaϫϠΜa",
  "ɦӯakɵˮa(-TO-' EMBEDDɠk'-TO-(adPOP²ƳʇäɎATTa(-TO-' ɳRœaj'-TO-(aNARƻÄ-ĄAK ΫaɷŽŭ&ecǘӀbRŗaȌagІagѦDjȌj",
  "gІaćıϻ (ӳʿԍhz'-aREFĨƁ]a+ ԨȈǙROBîaɳɦaγǟadĈƭʄbARET¸SERʇ ΜaõEƸMaϫ«LLıяN Ωa(Պ#ƬLLav'a+ әafƫǎƓEμAafEμ",
  "ϠƫSaTIƺɜ& ıӛPILđW¦> ÜBǰETci'aɩҜaӛɽ˕aɆE×aʋҜS§IGNě<LYačżCɛžǷ&aSWǲʚaӑγǟaFϲӘON]aЂė ӘƖɹRUƦ PRŗaɏȭ ӘON",
  "bqšaqǬaɏȭ]aϦώaǧ˕a< ӎaϴ¿ǛŶɝ Ϋaʏ ˹RaFUNCʇ APPůˀȈVISIBŭTŗSkSEɵǤkPLUS¡1a(-TO-' ISOŬEai'-TO-(aiĹSTÐƺG",
  "aiPOP²ƳʇALȈHIBIT SYMMEǧC SWAPPɠtACTIVøaeINHIBITРʞȴauACTIVøaNˀä?ǂPESblƒaԳZĩmҧI¡2mɏnšmǉnɋm|mɭmΛ&mž",
  "USmҠm(Ԥmm'mҧNcBѩZĩkփk|kɭkΛ&kžUSkҠk(Ԥkm'¡1aŬŘǑѩ%!AȡOsXsSCHWAsHsKsLsMsNsPsSsT¡3aEURO-CδCY¦c˕bcRUZE",
  "IROacFRENCH FƱCacLIRAacŽLacNãAadPEǀacRUƟacWƖcNEWÎEQELacDƕacEUROacKIPacTUGRIKacĘCHMAacGERŴ ƠNYacP",
  "ESOacGUñNIacAUǐALacHRYVNIAacCEDIacLIVREÕURNOISacSPESŽOacǘGEadřɜRUPEacǫKŞ½RAacNORDIC]acŴATacRUBŮc",
  "ūIacBITCƍacSOM¡15aӶ(´RPƘ,kj'k˿<½ƂϸYkpΧkԸ*,klkc(kc'kɻ ϸYkmӊ kwïIkԂ,kgɏkENɆɟϥuϾuыuϥʙΩk( '*,kENɆɟSĐ",
  "ENuKEYCAPuUPWòҽӂkԱDǷϸYkȑ<жkANNUITY;kІ γėkWœ BRIDGE,kÝ ϸYki˿+ ΪUSk'Վ^:kr(l*@kc'kҜ,¡15aACCOUNTÅbDD",
  "ƵSěTOÔEÑBJECTa+н¢CaDEɑ CELSIǹϤ ɦ;bAREÅcDA UNAaEULħĎǌNTaSCRUƦaDEɑ³HRENHEITaѩ% Gh$ Hae>-ϰae+нaƥNCK",
  "¯NǌNTpϙʋPIaѩ$ Iae>-ϰaѩ$ Lhc%aL Bȫ;a+н¢NaNUżO¦SɲËď˝COPY'bCRIPT¢Pae+нlQaѩ$ Rae>-ϰae+нaƧSCRIPʇÒKEaƵ",
  "PONǁSERVŒ]aӝ &bcRà]aǻSICŮ+н¢ZaOUƁ &bcHMafӑa>-ϰ¢Zaѱ˰ %!ŝAaKELVŘ&acîǐOMaѩ$ Ba>-ϰ¢CaĭŖǗ;aѩ% Ehc$jFa",
  "eʊĜѩ$ Mh% OaȽ;aBET;aˬ;a˙;ȈɎϠǊRCEaҮ$ QaķǇIŭ&a+н¤PIl˪jg$lPIjN-ARYÑMMˀaѱԁ¢GuLarREǻSaѱԁ¢Ya+н.$ Djc%l",
  "ElIlJaƨơTY ɦaѱAҩaɷ&aAKǟSELSKABaѱ% FaSYMBOLʝSéƹêǊRCEaVULĽ ԩ ΥTHudNIudTEvōDqӞSqɰFIFTHqʋFIFTHSrhɚqh",
  "ɏqɰǉTHqɍÏXTHSqɰ|HqЂ|HSqfFIVqeΥaяNгǤȲaeROŴгLoǬpɚoեo|oɭoǘocĠVoαEo˧oԛojFIVoƔӀa%ÌŴгLȲqǬrɚqɏršqǉrɋq|q",
  "ɭqǘqcĠVqαEq˧qԛqjFIVqƔӀaROŴгLȲӀ C DoɍӀojǘoӛԛaҧӛCaROŴгLÏX»ǖɎof˧ ęLYuѰDojԛaVULĽ яN ZĩÔIRDSaѱ?Ǭjɚ¡4ʑ",
  "acǶc'ac^Ȅ'*aǳ^*aӽ*gdEAaiǊgdWEʑиaj'ʐWû*ah'ʐʋɔED*anǶn'an^ʑʰah'ʑʟȫalǶl'al^aǳ^*#BAǁÝʭah'ʑ#LOOPah'Ȅ'ʨ",
  "*d*иa^: ZIGZAG*aǴ*#ǡ (:j':a^:*#ǡ (:i':aÛ#ďNħ^:a^:*#ďNħ(:aԸÕP ɽϥ*azaӽ*Õ ˿ĀaeÝÕȫϙÛÕaԸʣУ*awa(ա:q^:a",
  "UPՎ':r(:a'ա:q^:a^Վ':q(:aÛϙÝacǴ* Üƌ^acÝϙ'cÇIRED*SakǶk'ak^ʐŅPƘϙ':´RPƘaj':´RPƘϙ(ʐ+*иbk 'ak':ʐ+*aeǶe",
  "'ae^ad( 'adǳ^adӽgfEAakǊgfWEʐІ*aj'adÜSƬGGal'aǴ*ÚϿal^ʐDôED*ajǶj'aj^ʑÕȫaj'ʐ~*aeǶe'ae^aǴ ~*ʟȫhƓPEDĭA",
  "Ls#[ȫte<f +*iÆ PEDĭALa': ~*ʟØLLaӽ*ÕФanϽEAaǳ^ ~*a'*#%Уa^:* ÜƌǴ*aЂÛSʑӄal'ak( 'bi:*Úan'am( 'b:ʣҘao'",
  "an( 'aļ§LačƦɬaԀFFĨNTŏaʅE EXşSgҞ EXşaEMPTY ǀȈĐɬaNABLAaӸakƇ¨ al%aɇâS ASÀɪakҞґak%ґSaϧ ƨOFaN-ARYҔghC",
  "OgSUMMˀažǷ&fc-OR-PLǹėÈUSbIЋ Ωaǀ žǹҜһajɻajBǰıϾÌOTagCUBafɏTHaƨPORʇäTOȈĸITYa'όafafM˟ěagSPŋɝaDIVœSbO",
  "ESȰШaɵLLELÕalƇ aӻDiORaԮadUNȈTˣaȑajІajɇOURajSURķEakVOLUMakČCKWISkiɇOUR azïICaʅEļEaBECAUǁRATIOaƨPO",
  "Rʇaė žǹEXCĬaGEOMEǧC ƨPORʇaHOMOǛǞaՈaӛίaӑLAZY SaSŚʨaWƲTHҔaƇ ίagžǹASYMPTOǞèYӫxƇ alAPѣTEoiBUTȰ ACTUè",
  "Y asNEIʅ APѣTELYÄRajALƀTapƇ ajALƀTϏ ORaІ ίaèӫdĦIVʽanGEOMEǧąLY aDIFFĨƁ фaAPƨAĉSÔE½MITaGEOMEǧąLYӫA",
  "PѣTELYҺȳǛ ŖGEÅaŖGEÅȳAPѣTELYӫ˕ϏSaˤS ˕aɻ¸ҺfiadďƵPONDSaĭŖTESbƬîβTOaʂϏSa˜ӫˤÕ BY±ĸIʇaM˟ěBYaƫǎƔDӫjƇafœ",
  "NǞamƇ adǐICTLY ĦIVʽadԼˤarҢkӒ OVEatҢjӒ«TȰawҢMUCH ӒffҢфaƇ ĦIVʽÕeӒefGƲǙbEIʅ ӒÄRҺisҢdԼĦIVʽawҢqNEIʅ Ӓ",
  " NixҢԼԬafԬȳɥafNEIʅ ӒÄR GƲǙifԬÄR ɥaҬaSUCCEEDSaҬ ORӫnSѳdҬȳĦIVʽasSѳҞ ƧCEDEjSѳЀÅcgơagƇ AÑBigơaЀȱORҺc",
  "sơalNEIʅ A ЀȱNmtơajЀÅ#ƇctơaMULTIǀi ϵůˀjdUNѹ ŖGEÅhdORŔNALhŖGEȱORҺhpORŔNALhCAPiǶчÈUSicžiTŗSiDIЋ Ωj",
  "OTһijɻijҜiˤSiDôѹDÈUSicžiTŗSiėһa'ʥaf(af^afǶASSERʇȉĔSaTRUEaļCĮІ <ȫ ' ʊǎŮm+ <ȫ +aҞ ƨVEaƇÖUEaҞ ļCEaN",
  "EGøD + <ȫ + ' ʊǎŮҬ γËLˀaqSѳNORMäǑGROǳOFaɇâS ASԌGROǶNORMäǑGROǳƌORӫmɇâS ASԌGROǶORŔNäOFadŖGEaMULTŖP",
  "aŋMITɜĎJUGø¿ǧXȈǙąøaXORaNìbORa'ό#ARCcЅŮN-ARY ӻDoORgԮgdUNaыһbjOTajʂaDIЋ TŗSȇWǟȄNORMäķǤ ɽDIƳTҔȊÄRMä",
  "at(at'aӛίϏSaɈY LϷ ORoìa+ ЀedơcԮcdUNaPITCHļKaˤ)ɵLLELÕaӒȷajҢηMUCH ӒkfҢnӒҺ ORafԬҺȳɥavmfGƲǙmҬmSUCCEE",
  "DSaҞ ƧCEDEȳˤjjSѳƇе ŖGEȱORҺlpORŔNALajϾ ŖGEȱORȰhtORŔNALadӒ«TȰ ĦIVʽazGƲǙ-TawҬaxSѳƇԌGROǳOFaҞґ ASԌGRO",
  "ǶƇԌGROǳƌORӫҞґ ASԌGROǳORϏa< ġIƩSajMIDɦ [ajǳ'ЦALau^aӸ#˿[жlj<ȫ öϧaȥӸaӸʬlѠas% afӸ#UNDlʋ[жSaɇâS#˿[жjj",
  "<ȫ öϧaz%ґSaɇâS#Ѡaq% aZȰϠBAGÀɪǄPaĖMEʄ&aĠCǧC*aŎǁUPʳaf^aƨJECʈbgERSPaWAVY ɦȄCEIɧai'Ȅ˨ag'aϢ ' đPhf(af",
  "ǣ 'ef(aӛƇ¦Ͼ¾ZĤEaARCaSEGɬcCǤaӝËďĕaPOϼ¸D˷RaVIEWD÷еaƥCEȱINǙĭ¦dѱNOaWATCHaŎR˭aǣ (Фeh'ahϢ (hh'aǣʡ¸Tˣao",
  "ϢaFƻNaSŽEaUPʳҹʋ[ȫSaOPʇºYaERAƿTOÔE 'aX¸ AËCTʿȬaKEYˎa(ӳʿҐax'aERAƿTOÔE (aBENZEƂɻaCYLřRICITYaè©ɲ-ƨFI",
  "ŮSYMMETRYaTOTäRUNƚaDŗNɿ ORŔNaĎɝÒơaSLOPEaCOUNǙBOREhSINKaAPL FUNCʇAL; I-BEAMqSƬSH ɹqɹϏvDIVœxAſDvJO",
  "TvϥqcϥÐIxJOTqΩȫqjBßqɹ ΩvfBßvӒvfGƲǙqÜVíqg'qɹ Ývc'qϥʙΩq^ʥ Ҵq˜ÐILEqɹ ^¬RETv˜q^ʥ JOTqǴ Víqɹ×:*qѴ ѠqĔ",
  "ÐILEqɹ×¬RETvĔqѴ JOTq^: Víqɹ ^:*sOǖҴqj˜rjIAſDqjJOTqjϥqǳǅE JOTqQUOǖɹqϥ ʂqɹ ˕qѴ ӌqkĔqkʂqkJOTqkϥq^ÎO",
  "EÐILEql(qί ӌqkԬq˖ȫqĔ ίqeZqeǎŭTrEMI˕ ҴqɹȰϏvƫSʇq^¬RET ίqmUPqŝAqƶqΗqʾ ҴqjэqjŝAqkOMEGqʾaƇ ˒]a'ό#^: Z",
  "IGZAG*aǅULĕěɱȬaBġ;a< ɦ#=ėȈSERʇ;aɇINUOǷγɦ;avDISaEMƢǈ;ačPOϼ;a~е#Ϥ < ɦaĥER;aпʈºY;aHELM;Ҷ [ȫ#ƇCHiЅŭ^",
  "aBRƎNУ#NORTHWĭ*aUNDO;ȉNOǌBLE;aHYǍƵIS;aɱ-ɅUIT-ƚPUT H-TYPE;ugLaPASSš-Pǰ-^-ƚPUT;niǶDIƳT CδT;ʞȶaSOFT",
  "WARE-FUNCʇ;aAPL FUNCʇAL; ɹaDECŖLӯºY;aƧVIOǷPáafNEXTaPƷT SĐEN;aiCLęa(ԤϜ ɘo˥ɿoϲɘah'Ԥ×Po˥ɿoϲɘa(ՊϜФr˥",
  "ɿrϲďNĪj'Պ×Pr˥ɿrϲďNĪ(ՃϜ ɘq=PIECEqϲɘaɈYҐ ˥ɿa'ՃϜ ɘq=PIECEqϲɘȈTˣ ˥ɿak[ ɦadЉ(ȳєՃ SECTgw'ȳϲ(aSUMMϠǣkϢa",
  "ǣՊapϢvϙǣՊaRADɝ; ϢȄ<Ȭ ɦal'a[ SĆ ɦ-1m3m7m9aDĥşRY;ϗ <)ǣ 'tcϢs#ϥrh^)[rjUPrc<#Ѕrj^)[rlUPr<)Wûre^)[#rh",
  "UPr^)[rcUPr<)ǣ (tcϢѹ ĻTaREʊ;aEJECT;a<½Ƃ˥ɿaMEǧą ˏjɨϙΧjΧϙɨjɨϙʋΧSjʋΧSϙɨu˹DkƸEMEkeEǥjfƠTa˞ GΠaFUǁǣԤa",
  "mϢaǣՃaoϢaiǣÕRTOIƿǃLLaxϢa~ÖAPEZIUMaBENZEƂɻ#ϥaұNĬafFLAaAC CδTaĠCǧą ԮaDECŖL EXPƔNT;ȅ'ӳ+ӂcu(cuUPcu^c",
  "'ӳ+ӂ#<ȫcz(-cf'խÚaåRM ČCKaǏPWATCHaTŗR ČCKaŎR˭#FŲɟƾDȅϴ (խjs'jsUPjs^a+ <ȫȅϾʝǏPcϥʝƳORDaPOǾ;fÆ-OFF;i;",
  "gSLEEP;aOBSERǻ ĵ;"]

end RepoAtlas.CharName
