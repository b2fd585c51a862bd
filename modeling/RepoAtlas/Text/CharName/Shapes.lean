/-!
# Names of characters: shapes

Box drawing, dingbats, braille patterns and further operators. The layout is that of
`CharName.tables`.
-/

namespace RepoAtlas.CharName

def shapes : List String := [
  "aSYMBOLʝNǰlʂTȱɔśuTEXTliģtƱSMISɿnƬRYlßNOWLEDGElBġmßΫl[ÒBULˀlɦ FEEDl<ÒBULˀlɎ FEEDlćRIáËʊlǄFT ƚrINl",
  "D÷½NK ESCAPEmEVŒ¯NǨLȲzȶz ήz ɏlӔßNOWLEDGElSYNCHƺOǷIDLElϧÖANSMISɿύlĆCELlϧбlǑǎTUTElESCAPElFILEӯlkGR",
  "OUPlkƳORDlkUNITlΫlĔETEaBŪK;aɱȬaSYMBOLʝNEWɦlĔEǖɎȶllǑǎTU¡25aOCR ɘeĈIReļKeeӑeBELT«CKLEfOW ǟfƱCH BAN",
  "K œNTIFICˀeAMOUNTȱ˒eDôeCUǏż ACCOUNT NUɪe+ʙΩ¡21Ҷ ?ւj|jɭiӿpcĠVpαEqѐpfFOUqeIFpeǉqeɋpd|pdɭTpTκaӕIZě?",
  "ѝqɚpɏqšpǉqɋp|pɭoӿvcĠVvαEwѐvfFOUweIFveǉweɋvd|vdɭTvTκa?ɰӏbkǬckɚbkɏckšbkǉckɋbk|bkɭakӿhmĠVhkαEikѐhpF",
  "OUioIFhoǉioɋhn|hnɭThkTκaӕIZěҧAwBwCwDwEwFwGwHwIwJwKwLwMwNwOwPwQwRwSwTwUwVwWwXwYwZҶ ҦAqBqCqDqEqFqG",
  "qHqIqJqKqLqMqNqOqPqQqRqSqTqUqVqWqXqYqZo%!AqBqCqDqEqFqGqHqIqJqKqLqMqNqOqPqQqRqSqTqUqVqWqXqYqZiʻaӔ",
  "ч њELɋyαEzѐyfFOUzeIFyeʁeɋyd|ydɭTyTκa+УD ?ƔlǬmɚlɏmšlǉmɋl|lɭkӿaӔчϋȇX ĘWśSϗ [ncԭ<ncԭІʚ [noԭІʚ <noԭɹ",
  "RUƦʚ [nrԭɹRUƦʚ <nrԭ^)'n^Ю'ϒp˳)'ϗnϩ^)'nϱ^)(n^Ю(ϒp˳)(ϗnϩ^)(nϱUP)'nUPЮ'ϒq˳)'ϗnϩUP)'nϱUP)(nUPЮ(ϒq˳)(",
  "ϗnϩUP)(nϱ<)'n<Ю'ϒnUPЪ' ^ϗng^Ъ'×ng<Ъ'n^Ю'×ϒngUPЮ' ^nϩ<)'nϱ<)(n<Ю(ϒnUPЪ( ^ϗng^Ъ(×ng<Ъ(n^Ю(×ϒngUPЮ(",
  " ^nϩ<)(nϱ^)[n(Ъ' ^ϗni'Ъ(n^Ю[ϒp˳)[ϗn'Ю( ^ϒni(Ю'nϩ^)[ncϱUPn(Ъ'×ϗnj'Ъ(nUPЮ[ϒq˳)[ϗn'Ю(×ϒnj(Ю'nϩUP)[n",
  "cϱ<n(Ъ' <ϗni'Ъ(n<Ю[ϒnUPЪ^ [ϗni^ЪUPnh<Ъng(×Ъ' ^ni'×Ъ(ng( ^Ъ'×nj' ^Ъ(n^Юǳ[ϒniUPЮ^ng'Ю( <ni(Ю'nϩ<)[",
  "nϱ+ʚ [njԭ+ʚ <nj˳n+ [p<n^д)' +p+)'Ҿ ^)'n^д)( +p+)(Ҿ ^)(nǳϻ)' +q+)'Ҿ×)'nǳϻ)( +q+)(Ҿ×)(n<д)' +p+)'Ҿ",
  " <)'n<д)( +p+)(Ҿ <)(n^д)[ +p+)[Ҿ ^)[nǳϻ)[ +q+)[Ҿ×)[n<д)[ +p+)[Ҿ <)[nϱARC ^)'z(xcUPz)'tӍЉ'Ӂ (ʖЉ(Ӂ",
  " 'ʖ˗t(tUPt't^nϩ(tUPt't^nϱ()ϩ'tUP)ϩ^nϩ()ϱ'tUP)ϱ^aЉɒύagϲɰ|HkgѤggЂ|HSggɒggɍ |HSghЂѤghΥ |HagFǰag( Υ ",
  "|HSchЂѤchɍ |HcgɒcgЂ|HScgɰѤgg|Hag'ʡaϱǂDEagϴagDARKaЉɰ|Hύan'aɹƱT ϲ(p'jЉ(q)ϲ()єx'rЉ')ϲ(zєp'q)ϲ(y)єȅϾ",
  "ah~i#ΠEDФSiґɟ>¤Ͼѹ#[ʜhf<hfORǝĿä˗HATCHhfЉ(Ӂ 'nf'Ӂ (hfӍ˗HATCHȅ%еaj~ȅƳTʿak~ak> <am~ȅɵLLELΖao~ȅUPխav~",
  "aj>×ӳ%ax~aj> '-Μɠu~aj> 'ӳ%aw~ȅ'ӳΜĪt~ȅ^խau~aj> ^ӳ%aw~aj> (-Μɠu~aj> (ӳ%aw~ȅ(ӳΜĪt~ȅыai~jґɟ>¤ыaFŞĵaL",
  "OZĤEa~УahϦaϥ#<ʜaBǰSĵȅϥaϥ#й>hh'hhŲERhjǵnc' ɹƱThlè«TϜ (aй>Уao'ȈǻƿBǰETi~УaqЉɒ ayŲaЉ( ɹƱT ɅβARCgw'az",
  "ŲEgw(aЉɒУaoŲac> є Ѕij(cnǵij'a~«LLıϾ#й>hh'hhЉ(ЦALhqєa~е#< BISECʆ ɦcUPխȷaUPխ#й>vh'a˽Уa~е#Љ( ɹƱTjnŲ",
  "pj'jnǵcjϥ#Љ(jnŲpj'jnǵaЉ(ӂgj'ajϲ(a~беao>ah~б %aq>aєӂȅSUN#RAYSaČUDaUMĄűaSNOWŴačı> ʂaf~a˾NɠTHγǏRMaS",
  "UNaASCģɟNODEanDEaĎJUNCʇaeƙOSIȅӝak~aɂOTȬk#˒lXaƽTIREaUMĄű#ƮN DROPSaHOT BEǻáa~ÎOGI PIECEam>aǂMRƋaӛҮ",
  "FLOƯ ˲«LLı> (ҽϓcp'ap~ (cpUPcp'cp^aSKǰ)˗BƔSaCAUʇ¦cRADIOACʈacBIOHAZòaCADUCEǹANKHaORǝDOXώaĊ ƶbROSSȱ",
  "LOƼŚjJERUƽEMaʂ)ĐSɄaFARSI;aADIȴKTIaŃż)SICKŮƞCE;aYŘȀGaǧɐʝHEûNmLAKEmĹEmTHγmWřnøRmMџm˞aλȱDŅMAa~ FƻNɟ",
  "ķEciSŽan>a~ÑN#RAYSaĹST ѤÁƖpLAażCURYaFEMæ¦˞aMæ¦JUPIǙaSAʊaUƱǹNEPTUNEaPLUTOaARIĮǕRǹGEžIaĆCĪLEOaVIRG",
  "OaLIăaSďPIUSbdAGIǪRaCAPRIďNaAQUARIǹPISCĮ~ԋiΞiRƗiˍPiϯiPAWNa>ԋiΞiRƗiˍPiϯiPAWNcSPàÑITaf~ ˲cfыaf> CL",
  "UBaf~ SPàaf> ˲cfыaf~ CLUBaHOT SPɻSaѤȰEaf|HaBEAŹ |HȰEShhѬTaMUSőFŬ &gcNAǫALgcǂRPaWĭ SYRIACώapEAaUN",
  "šRƽËCYCɧ;aƳYCɧ;ʝTYPE-1ÈõICSuj2uj3uj4uj5uj6uj7pGENERőŶERŏSȅUNšRƽËCYCɧ;aƳYCLěƜER;apɶŏLY-bERŴĥÇɷ&aλ",
  "ĈIR;aDIE³CE-1j2j3j4j5j6a~Уȷ 'jҲȅϥ#~ȭ 'jʋ~ʛȉNΖʝȀGoINaDIɐʝGƲʄȀGlɥħYINtîlGƲʄYINa~ FŨaf>aŃż)PICKaANċ",
  "Ra˗ěSʏSaǌFFȱAESCULAPIUSbąĮæMBICaFŲĪGęaǌFFȱŋMĮúM;aFLEUR-DE-LISaƚɦD ~ ʂaЂɦS¯NǻGɟ'x(aWARNɟ&ac˵VOLTá",
  "ad+D FEMALdgagINǙLƋěFEMæ)agMæ)FEed#ǐOKlc)Mæ)FEMæad<¿LE#ǐOKao[aϴ ~Уhh>hh% ~bARRIá;acDIVORCaUNŵRIě",
  "ɶNERǄP;aCOFĸaFUNEƯ URNaNĳĪCĨSaPèASaJUNOaVĭAaĊƺȅMƘ½ŰHaSEXǠEcfMIǁƬNCUNXaSESƬɹRøbOCCħɂaeBAǁϾDºYa~ Ę",
  "UGHTS¿NlɤȅĘUGHTS¿NlɤaSNOWŴÙǝUT SNOWbUN BEHř ČUDaƮNȅSNOWŴaTHγ ČUD)ƮNbURNě~ÎOGI PIECEhm>a~ЧD¸еaъG»",
  "NĮDISABLěćaOƣUCHǹPICKać SLIDɠHELMET#~ώҶӪŪESbHâSaNO ĥRYaӵƔ-ǽ (ØYÖAFFICas>ȶaw~ȅ(»ƂżGEan~aDRš Sɩ&aϩ",
  "~ ^խȄшĥRYѹDÍLTIREacFèɟӍŘ~У¸ > SQUAȅTRǮaƵǧCǗ ( ĥRY-1t2aõƺƒą;ʝUƱǹϩϥи)Ҳ,aƠTAɐaj'-ɓěINǙLACěaz(-HAamI",
  "NǻTȅ˗ÆÎIELDaɾTOÎƷEaCHURCHbõŮHşORőSITEaGęÙǝUT HUBe#ɓLĮMAP;ʝ˾ŎSEbџaUMĄűÆ GΠaFџbŨ¸·LEbERRYaSAILBOAT",
  "bQUARE ɏФSbKIĪŒ SKøaɸON#ɂaǘTaJAƛEƿBANK;aɔǏƂ˯Yò;aFUEL PUMPaCǳƓ>еa~ FŨ#[ =>ÐRIPEȅSAFETY SCISSORSaj",
  "ЉBLàaj>ajϲBLàaj~cϩ˒]aӝ¾CϠ&bAPE DRšaãƥNEaEћaϹ FşhɓafVICǤYafWƹɠє ƠCILagagЉ' a~ NIBae>a˒]agϩaՐXaqϩa",
  "cɂOTaiϩaƚɦD ˰ώam˳agΘϤarϩagŬINalǂDOWě~ amƚɦDagMALTEǁʂȱDAVIDaɏÓòROP-SPƎD ҜfqɂƘazϩFOUaqɏ CLUBȅɏҼʂas",
  "~aSƝKLESbǦSS ƚɦD ~ ʂajɅLafΘϤ >af> Ϥ ~afƚɦD >apϩafƤλafǂDOWě~aϩҜajΘϤaj| SPƎDcΜě> ʂkfƤλafǉҼ>ah|ҼƳǠŚ",
  "ARazϩ| PahαE ΜĜѬҼҜalTęDROP-SPOKayΘϤ az˳aǉ PįLLě>)~ FLORETTEaj>aj~aj| PįLLěƚɦD >Ҷʣ Ϥ |ҼʂaϩTęDROP-",
  "SPƎD Ƥλ ҜaSNOWFLAKEajTɞȵFƐø akϩĉVƺaSƝKŮhϩaɂƘ-SPƎD Ҝaj|ÓòROP-SPƎD ƨPġĪzϩ|ÓòROP-a˗]aǂDOWě~УaӔϾDώ]a",
  "є DROP-ǂDOWě~еazǵĪrє awǵȅә Ҫat~coEμAȅы žǷ~ XaϩԨ;aϱ<ȫagϴag˳gϻ ѱ˖ԍ Ҫnzgz+ ѱizgzɩϻ kz+ aj˘DÐEM ɵˮ¦j",
  "ϩԨgv˲ g> ˲aҮϩ> ˲«LLıFLOƯ ˲aҮFLOƯ ˲«LLıϴ (Ԥ Ҫhv'hvFŬǘě(rv'hj(ӳʿҐhz'-ΜIajϩ(ӳʿԍgz'ӳgj(ӳʿҐgz'-ΜIarϱ(",
  "ÕRTOIƿǃLLgz'ÕRTOIarϴ ( ɈYhx'aDśBöӔч ?Ɣz?ʌ?ήz?˩?ɍz?ʁ?Υz?|z?ɭzӿiч ԲƔzF ?ʌF ?ήzF ?˩F ?ɍzF ?ʁF ?ΥzF ",
  "?|zF ?ɭzF ӿiӔч ԲƔzԲʌԲήzԲ˩ԲɍzԲʁԲΥzԲ|zԲɭzԁ ӿaϩWœҗÛgΛ&gežgcDIЋgϽEõ*gÛgӼ*aĘFʆ Μ ÛaeϩΠ-ǡPĜgЅLE-ɔatϩau",
  "DôĜzϩDae>aή-DÕP-˾ěÛɔiqϢai>aϩ> ˘D ^:)ÛpfǶdSQUö> agϩĎCû-ΜĜe'-ǂDě~an(aiBß-ǠǗȴDOWawFƺTaoϩє-gtǵatƇ˓Ųa",
  "ɈY¾OPaƇ˓Љ'-ǂDOWě~ Ûagчϒae~-FĚŋĜ>-FĚŋěϽEõ*mÛmӼ*aiϩ>-FĚŋěǊsÛsӼ*aTęDROP-ĀBěÛagϩTęDROP-ǂNKagWEDGE-ʃa",
  "qϩagɱ-ƚLINa+ ɈY¾OPaЂDŗNɿäʿaf~ӂґɟ% ~ȵaơƠDICUūaΘЀhdơȄS-ѫBAG±LIMIǙax'aORȷЬaԱDǷƧCE˝ЀaSUɸET ƧCE˝Ϊǹ<ȫ#",
  "[жaŶHEŶɝ ƸśЦALa˿DIЋaŶHEŶɝ³LɧЦALѹD ӻDqORa~ЧD#ϤDȭadì#aӸʣɟǴaєФȷalЉ(ȄƚħJƍal'alFǰa˽ Ѵgf^a()' + ʊǎLEeT",
  "ßbÂLTŖPa˿'ʥff(aѴ#ϥ,aLOZĤEШD BY [ RUŮ~¯NCû-SœDЧDx#ÜǞKyg'cgϾ#(jg'aŶHEŶɝ ( ~Պnr'nj(¨GLno'no( +nq'ni",
  "( ~ÕRTOIƿǃLLnz'n( FŬǘEDԤnw'aǴ ɹRUƦ*am^adԸ GAPPěɅaya'*#чÈǹ˿Ýfc'f( '*g: +*fe'fd( 'g:*ʟȫfl'fkÜ+fn'i",
  "SƬGGLE*aăŕEÇTǙN BŪKqėS-1v2v12v3v13v23vc1v4v14v24vc1v34vc1vc2vd1v5v15v25vc1v35vc1vc2vd1v45ջv6v16v",
  "26vc1v36vc1vc2vd1v46ջv56ջvc4ռv7v17v27vc1v37vc1vc2vd1v47ջv57ջvc4ռv67ջvc4ռvc5ռvd4ve1ve2vf1ve3vf1vf",
  "2vg1v8v18v28vc1v38vc1vc2vd1v48ջv58ջvc4ռv68ջvc4ռvc5ռvd4ve1ve2vf1ve3vf1vf2vg1v78ջvc4ռvc5ռvd4ve1ve2",
  "vf1ve3vf1vf2vg1vc6ռvd4ve1ve2vf1ve3vf1vf2vg1vd5ve1ve2vf1ve3vf1vf2vg1ve4vf1vf2vg1vf3vg1vg2vh1a':ȶҘ",
  "ӄpȑaiÜ+*#an'am( 'a':ȶҘʟȫakÜ+an'a^:*#[жalUPd І*aj^ʐ+ʚ*aj'agÜІao'elWOҗTc*#ϦÐEMaǴ*Õȫaj^aÛʰӄjȑcȶҘʰtӄ",
  "uȑʑ-ʃah'agÜ+aj'ʑÕ >ЧDap'anÝʟȫay'aӽ)ϽEõ*gdEõ)ϽWEgWĭ*ʭgiEAanǊgiWEaӽ*)Ӽ*giEõ*)ǊadϽEõ*)ϽWEgiWĭ*)NORa",
  "ƸɟӍъG³LɧЦALamFèɟӍъG ƸaϽEõ*ӪӼ*aiӼ*ӪǊaiFèɟӍъGÄRaiƸɟӍъG ǊadӼ*Ӫ϶WEgdWĭ*Ӫ϶EAaWû*ҽ²ƳTLY 'aARƻҽ ':ÔĢCUR",
  "VɟǴzRVɟ^:p^:ÔĢCURVɟ(:zRVɟ':a'-Sœ©C ӊ*ak(-Sœ©C¨TIatǣatϢaǣ©C ӊ*#žUSicԸ*#PLaє ɽɅβӊ*gk( ɽɅβïIacԸ шɅL",
  "ayaÛ, ϺÝacÝ, Ϻ'acϺÛ, (aÛ#PLUS@ai(aÛҕ XȄ'*ҕ¤ϥajǴȶҘʟȄˌǳ' ˌ^´RPƘhi^ ' ˌǶiǳˌ' ^ ˌ(ii( ^ ˌ'ai( ˌǳ' ˌǶ",
  "iǳˌ' ^ ˌ'ai( ˌ^ ' ˌ^aiǳˌ( ^ ˌ(a(աÕȫay'ahUPՎ'ax^ah(Վ^ax'ahUPՎ(ax^ae(աʟȊ:ajUPՎ'az^aj(Վ^ȊajUPՎ(az^a",
  "(ա, (Վ^aUPՎ(С×Վ'a'ա, 'Վ^a^Վ(С ^Վ'a(ա, 'աq^, 'Վ^a'ա, (աq^, (Վ^a(ա, ɨʚqk^@ak'ա,qk^@aUPՎ(С ^Վ'aq^Վ(",
  "С×a' +*#ΠěɔaҠ, ÛafՈʑ, Ոas'fALƀTӫӒ, Ýʑҕ ӒaԬ, ÛafЀʑҕ ЀaSUɸET, ÝȄFŞ ʃak'akǶk^aІ <ȫ±LIMIǙaZȰϠSPOTlTY",
  "PE ˕Ȅ~Ճaq'Ȅ~Ԥao'aZȰϠ( ŖGEҐlo'li( ĂDślq'a(Պ#Ҵay'a(Պ#ǞK¸ÕPФah'Պ#ǞK¸ Ϣaz(е ăCah'Պ#ǞK¸ÕPȄʿҐȷas'ȄARC ",
  "ӒҐan'©C Ңz+ (cn'©C ɥai( >ÕRTOIƿǃLLȊaϦ FEƁa< ZIGZAG ɦaM˟ěʿʣɟ(a'ό Ѷ#ϾaM˟ě'όȷaʿ#SЬbCUǖʿaSPŋɝόʣɟ(yǶѱ",
  "ʿaiREǻSaʿ#ҴaoӛaOBLIƫόʣɟUPw^aM˟ěʿ#ΘARM ģɟIN*ҽ×)'zN˝IN*ҽ×)(zN˝IN*ҽ ^)'zN˝IN*ҽ ^)(zN˝IN*ҽ ')UPzdN˝I",
  "N*ҽ (zN˝IN*ҽ ')^zcN˝IN*ҽ (aӛEMPTY ǀaEMPTY ǀ#Ѡk%У,k'*,kc(aϥ#[ȫgeD <iɵLLELiԱDUSiơƠDICUūgcШD BY [ȫ)",
  "ǣʡШD BY < Bg#SUơIMPOSěXgD Ը-ҮDIЋ¦UP*ҕУҶ ~«LLETigiӒifGƲǙg#%УÕÔE 'hjʋ[жSѹD ƸɟӍΩisFèiҜi%УiϾaʋ˹DеSbR",
  "IʿʬjҴaS¸ӂaЅLE#ΤS öϢa'ӂ, (ӂa(ӂС <ȫa<ȫС 'ӂȇWǟ#й>hh'ȅBOWǟaTŗS#й>gh'a~·UR˭ak>ȄWIGGLY FEƁan'an( +ap'Ȉ",
  "čƦǖINĸITYajǟ ɳȈĸITY NEGøD#<ȫa+-ģěMULTŖPѹ#ɇOURěƚɦȈĐASES ASaǆFFLEҔaҠ)ѭÇƯLELz#ί,aœNTɝÕ)ѭÇƯLELaGLEIC",
  "H ʂKaʅMODYNAMICa^խ#й>uh'ȅы#^*cLOZĤEa~У#^*ak>aERROR-т~еnh>n~ЧDni>n~Уnh>aRULE-ĔAYEDbEǻƿΪUSһaΪUS#Ѡa",
  "ԱDUS#[жaBIG ΪUSehѦ ac+ÈafІa(ӳ˘DόҐȊ-PƍaTINYadMaN-ARYУDȭһojPLUSni/gUNŜһȷvPLUSgϾ ԮһnmUNaiʋLϷ)liȳaiN",
  "-ARY/ȉDULOȶÑMaSUMMˀ#INTˣaɹRUƦ¸TˣһaĸIǖɶ¸TˣȈTˣÚϿi ûRá#ΩaɅULϠFUNCʇaeԸ¸TEŁaɦ¸TEŁʇ#ƳǔGβPù©ɲÉLErvɽɅqfȰ",
  "¸CLU˝ǛȈTˣ©ɲ A ΜһajQUøRNŜ¸TˣȈTˣ#ÝʭjTŗS &jԮjdUNjѠjfUNDaJƍa˽ (ӂһaZȰϠSĉMA¯MPOϼsPIƤGtROJECʇaΛ&#%У,hգ,",
  "hί,hɉhί@hǑѩǬh>ӂažǷ&#˖,iɉiFèśʛiiƸaΛ&¸ йϥkm'aVECǤȳ˗ҔaՐ&ʬrҴaɽDIƳTҔ#Ϣ ɆEDbMôҔaՐ&¸ йϥum'Ҷ Ր&#գaՐ&¸ +У",
  "Ҷ²Ћ¦Λ&¸ӂaqžboULǡůˀȈǙIORҔaq'ɓ aZȰϠRELˀäčPOϼaéLGéʇȳCOƨDUCTaԮȷaUNŜ#žǷ&gѠalӐnӻDaUNŜ#LϷ ORf, ԮadԮ, UN",
  "adUNŜ,ȫ, ӐadԮ,ȫ, UNafUNŜС)˹D#adԮС)˹D#ӐaшUNŜ#ΤShkӐa+е ԮjdUNaшUNŜ#ΤS)SMôҔaӻDʬifORa+ ӻDkORaʋӐɟӻDzOR",
  "adSLOƤGϖoìaeLϷȳϸPPɟLϷiì#=ǍMigORiì#[ʚihORiìÚѠmfUNDmȑai% VEE#afLϷ ORÚOVnfUNDaZȰϠDOųN¨TIƵǧCʇlqƱGEaҠ",
  "ȷ@aœNTɝʬaІ [ȫÚ<жnjІbILDEһʬpƸśʛaǇIū žǷǇIūaĎGRUĥʬaˤS#ҜaALƀTҺ#գbPѣTELYϏ ORӫҠ,Ϛ&adΛ&,ϏaҠ, Ոa+ ˕ϏaʋĎS",
  "ECUʈ ҠSbwɚaҠӅ,)Ҳ@dIVʽ#ӎ,aӒ#ϥЬatҢӒ#ә,aqҢԼѭӫzҢԼѭҺȷЬazԬȳSLaԼѭҺʬazԬaԼѭҺʬ 'aԬȳѭҺʬ (aԼAPѣTEauҢӒ)ϻ-ɦȰӫz",
  "ԬaӒ)Ƈ APѣTEavҢӒ, +-ɦϏ, ԬafԬ, +-ɦϏ, ɥaӒ,ÏŽðORϏaxҢӒ,ÏŽAR, ԬafԬ,ÏŽAR, ɥaӒ, Ԭ, +-ɦϏatԬ, ɥagӒ, ѭϏ, Ԭ,",
  " ѭauԬ, ѭϏ, ɥaѭҺȳӒufGƲǙuӒȷЬuqҢ+-ɦҺȳӒtfGƲǙhfѭҺȳɥzfR ҢfǇIūȳɥlfGƲǙh, Ӓ, ҠjpҢ+ NĭěӒjfGƲǙjӒ#ҴaԬ ϸPPɟӒn",
  "kBESœaӒ шBY ˘avҢӒ шBY ˘, ѭϏazԬ ɆEa%ħǚNahūGa%ħǚN ORӫtūGaҠ#BUMPY,aҬ,д-ɦ ҠaxSѳҬ,д-ɦȰӫzSUCCEEDS,aҬ, ",
  "ҠalSѳҬ,ȰӫpSѳkҬ,§ƀasSѳqҬ,ȰawSѳ+ ҬcSUCCEEDSaЀȷchơcBǀ#Λ&@clơcdBǀ#ϵůˀcvơcBǀȱORҺʬcxơcBǀÅ, ҠcqơcBǀÅ, Ո",
  "cwơcBǀÅ,§ƀTҺcxơckBǀÅ,ÄcuơbQUARE (ʣȬһhs'aшЀjdơjBǀ ORҺjpơaЀ,ÑɸETcdɸET,ÑBclBcdɸET,ÑơidСÑBpg)˹D BYʚ#",
  "aӸʣɟ^:aPITCHļK#TEEÕPaǥNSǻƽ ԮaļɤahNƖϺ(ʥgf^gfǶơƠDICUū#Sa<ȫ І ' ʊǎŮk+ <ȫ (am<ȫ +at+ aɨʚʟ (Àɪȱ+ <aϺ^",
  "ʥ#ѠgfѴ#UNDn, Ϻ^ʥah+cfUPcϿȰ¦oӛaҞШ#ӛNEGϠΩa< ɦ#ϥ,n@ai^ʥaɵLLEL#[жjՈaІ <ȫ ĂARYËLˀm#[жh˕һhNĭěӒofҢ+-ɦ ѭ",
  " ԼˤÕprҢІ ΪǷĂARYËLˀa˽ І <ȫһaj+ Ϊǹ~ <ȫahN-ARY bORTH Eõ ~*gfWEafϽEAgfWEad( 'b: >*aeǶe^adӼgfWEafϽEAg",
  "fWEad( 'adǳ^aÛ#ǡ ^:iǴʑ#ǡ ^:iǴѹ#ǣʡ >hhϢhhЉ'ЦALhqϲ(ahы#(ih'ihǣihϢbOTǗеah>ϖan~ah> η%ao~ȅƠTAĿaj~ceHE",
  "Xai>aj[ ȅ˽УcϴЧDap~ȅϴ¾ZĤEap~ȅ%ЧDeLOZĤEak~ȅ[ ġIPǁk~ai> <ak~a(*#%УaЂÝSa(*#чÈǹ˿ÜSƬGGLE*ʐǬҘӄpȑoʟȫn Іʚ",
  "*c*#ϦÐEMeʃӄjȑcȶҘʰtӄuȑc*ҕ XaWû*ҽ²ƳTLY (aҠ, ÝafѦ Ոʑ, Ѧ§ƀTӫÛҕ ԬmSUɸıÜɹRUƦ*am'aѦ Ո, ÛaÛ, Ѧ§ƀTӫՈ, Ýʑ,",
  "§ƀTҺfѦ ՈȊ:a^:ӂҗZIGZAG*aϺѭÄRTH*gdBßѭ Ǌa~б ʂaf> %ah~ȅ'ӳƠTAĿau~aϩ˽УgOVAL#OVALЬghϥ#ϥlEmDÍLTIREaѭÄRTH",
  "*ʭěɔȆCKѭ ǊTH*ʭěʃafѭÄRTH*#[akBßѭ Ǌbĥ*ҽ ^:ÔĢӼazϺBĥ*Éa(:ӂҘasǶs'as^ar( 'arǳ^arӽgtEAayǊgtWEad(:ӂҗDôaz",
  "Ƕz'az^aӊӂҗΘϥ*azԸȵa(:ӂҘÕȫazǶz'az^¡2ayӽgzEASazϽEASgzWĮ(:ӂҘÚ[жazǴÖѺaz^:Öa[ÒBºYai<a(:ӂҘϙ':ӂҘasǴӂҘ Üƌ",
  "^as':ӂҘϙ(as^:ӂҘ ÜƌǶ(:ӂҗPãED*SazǴȊ:az^:ʐ>УD ~*aoǶo'ao^aԸӂҗ' U-ǂPED*zkàD ϢzkàD (zkàDÕPaREʊ (h'aNEW",
  "ɦ (i'aɏФ*S Ʌɧ Ըa': >*¡1aSYMBOLʝTYPE A ĠCǨNICSaή-DÕP-˾ěÜĦIŬEƯʳis'-˾ěUPisǣ-˾ě'is(-˾ě^as> (csUPcs'c",
  "s^a^:ӂҘ#˿ǡ (:zǡ ':aǴӂҘ#˿ǡ (:z ǡ ':a(:ӂҘ#˿ǡ×:ѺIAa(:ӂҘ#˿ǡ ^:ѺIȅ˘D ^:)Ýmc'jcǴ)(nc'jc(:)UPjg'jc(:)^j",
  "f'aRIBBON* ^ (k'iǳ(l'i(×id'i( ^ic'aǴ ~*ʟȫ#[ȫcʳ¸ AËCTʿȬaϸPPɟ~еSni)>mjaɂOTȬ#ϱXacчiBɯXȅϾ ϤDciыaѱ> Ơ",
  "TAĿaf[ > OCajcϴ×խ ϤDjz^-jz(-jz'-aNEPTUƂɎȶaǣʡ >УaoϢaϱɏҼ> CUSPazҮaf~ ɏ ΜĜtҮѹÉϼ¸D˷RaUƁRTâTY¦GROUP]a",
  "PLUTOʞȶmɚlɏmšaǥNSPLUTOaƨSERƤAaõRAEAacHYGIaPHOLǹcNĬa~ÁƓSĠNAȅыÆώaTRUEϗÁƓóAaCUPIDOaHàSaZEǹKƺOSaAPƑO",
  "NbDMETOSaVULĆǹPOSEIDƖй> ʂam'aʂ#й>fh'ʐǬҘ#ЅLEʳSazǴ TȊ: Taz^: TaEƸʞȲkǬaSEDNAaRUSSɜõROLϷ; VŔNǠEwdNOV",
  "wdƬNTwdĂOVwSĥAĿwǦDECIŮҠ#INĸITY@aUNIǗ;aeSEɵac+acPASǁӛ'όaHġSCHREIāÇUSE;"]

end RepoAtlas.CharName
