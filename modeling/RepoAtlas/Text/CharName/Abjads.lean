/-!
# Names of characters: abjads

Scripts from Armenian and Hebrew to Ethiopic and Cherokee. The layout is that of
`CharName.tables`.
-/

namespace RepoAtlas.CharName

def abjads : List String := [
  "aARŻɜ$!AYBlBENlGIMlDAlECHlZAlEHmTlTOlȃlINIlLIWNlXEHlCAlKENlHOlJAlGHADlĉHlŻlYIlNOWlǂlVOlĈlPEHlcJH",
  "lRAlSEHlVEWlTIWNlƴlCOlYIWNlPIWRlKEHlOHlFEH¡2jMODIFIER!йɻjAӖjEMƢǈ]kμϡj˖jәjfABːAj%!ѱAYBldlBENlGIMl",
  "DAlECHlZAlEHmTlTOlȃlINIlLIWNlXEHlCAlKENlHOlJAlGHADlĉHlŻlYIlNOWlǂlVOlĈlPEHlcJHlRAlSEHlVEWlTIWNlƴl",
  "COlYIWNlPIWRlKEHlOHlFEHk ӓECH YIWNk!YIиjӏjϫ¡2a'-ķɟARŻɜEǙNITY¦z(-FacARŻɜĘM¡1aHEĄWП ETNAHTAoSEGOLp",
  "HALǃLĲZAQEF Q÷NuGADOLoǡEHAoREVIAoZARQAoPôTAoYETIVoTEVIRoGEɺuÂQDAMrǂYIMoQARNEY ɵoTELŞA GEDOLAoPAZ",
  "ERoATNAH´FUKHoMUNAHpAHAPAKHpERŦuºFULAoDARGAoQADMAoTELŞA QįNAoYERAH BĢYOMOoOLEoILUYoDEHIoZINORg]¿",
  "SORAУg ΜÎEVAnH÷F SEGOLtP÷HtQéTSoIRIQnTSĨnSEGOLnP÷HnQéTSnHOũs´SERʝVAVnQUBUTSnDáSHȳMAPIQnMETEGiUNC",
  "TUϠMAƪiƍTÊFEiUNCTUϠPASEQiƍT ɾȭogiUNCTUϠSƌPASUQg]ϜȭigŲg ԯƈ´FUŦiƍT QéTS Q÷N¡8g!ȽhBEThˬh˙hHEhVAVhZɀ",
  "hHEThcThȂhϨŢhdh˼hϨźhdhϨƈhdhSAMEKHhɀhϨPEhchϨǩDIhfhQOFhɺhɾhTAV¡4g ȂӂhӓYIDDŞ + VAVyVAV Ȃye+hԯGEɺwǂY",
  "IM¡11ξőњ&h&ÍNAHhĻTƇE]ERh&ÍFHAlMVAThNUɪ],gлCUBEÌOTnfɏTHgÊYgлɷŽŭ&rcǘӀbcFGńIbRABő˖hDøӯhPOEǞ ǻƿ&h& M",
  "ISRAjƽLèAŎ§AYHEØǋűMjiåYHE ȗHŶǰAH§AYHElDI§LAŎ¨HUjǓHèUSh% ˵ǒoӓȽ#ũȹoZâjFȿjDȾjŤRAhɽ˕g!ŵKg ϧÓXT]hІȭ Ә",
  "ON]hfƫSg!ŤHMIRI ȁh˱hȽ#MAē,mcŃZhhǼhȽ#˱@hӣ,hȽhBEHhTEH¿RBUTAjHicHhɢȐHhdKhĒhcTHhƴhZâhɼidHiADhcDhǒhcZ",
  "hâhdGHhKEŊӅ,oɚʛ@hFARSI ȁ#ӑVrҲ,sgɚgÒTWEELg!FEHhƪhcKhũhɫhɮhŊhǼhԧhȁg³ǚǔheDAMMheŤRhFȿhDȾhŤRAhǂēiUKUN",
  "hMAēH,h˱,m@hǑѩȽhӑDȾg]ÄƓGHUƆg ZWñKAYhҵ% V,peӑpɉhӛDȾhFȿӅhWAVY ˱@gлʻoօg ơɄ &hDECŖLӯhkѰDShɍҼʂg!ҟBEHp",
  "ƪhԳȽhȽØSLAl#WAVY ˱,w@h˵˱r ȽsǼhU#˱,h˵˱ ȁhcTTlEHhcBEhTğɻlԂ, ^:hPEHhcTEHheBȐH#˱,lҲ <,hNȁhdDȐH#Ԃ,hTĉ",
  "HmEHhēLiAL#ɻlɉp)%ÒHȕLieDiULiAL#Ԃ, ^:lӎ,hRƴiğ% Vlɻlɉl% V@lɉ)ė,lҲ,hJEHhƴ#ӎ,hɼȷ@)ė,mԂ@x)Ԃ,iADӅ@mɚʛ,",
  "hmǒhmâhҟFEHhFğėÁVED@o@hVEHhFğԂ@hPEŊhƪʬlԂ,hKEŊhSWô¹FhŢ#ɻlė,hNGhŢ#Ԃ@hGAFk#ɻhNGOEHhGAFӅ@iUEHiAF#Ԃ,h",
  "ũ#% Vlė,lԂ,v@hɮȷ@l GHUƆhRɮhɮ#ɻmԂ,hŊ DOAĈSHMEEhTĉHʬhŊȹ,k GOALp#˱,hTEH¿RBUTA GOALhǼ#ɻhKIRGHIZ OEhc",
  "hUhYUhcKIRGHIZ hǼӅ,hVEhFARSI ȁhȁʰl% VhǼʬhEhȁ#Ԃ@kȫREEr#˱,g ӏg!AEg¤˵ӓSAD#ũԶxrƪoɫϔäɎoũ ȽoɢoԂoɼhϧ üH",
  "hʂTȱRUB EL¶ZBh% ˵ΠěZĩofUP'ËCǔGUūoҟɔȱɣoɫ_ʞjɩɼj˵MAējǼjȁjd˵oɮhƥCEȱSAJDAHhEMPTY Ϥ ɩǏPufɗhΠě˵ǏP#FŕěϤh",
  "% ɩɫg!Ē#ӑVhlƴa˥DEDРлʻxƔxǬyɚxɏyšxǉyɋx|xɭξIC!Φȷ@hfDADhf˫g¥SřHI AҩqPOSTPOϼÀNg!Ŋ#ӑVaSYRIAC ϧ ɵˮhSUPƯ",
  "ŚðӏjqBjPƯŚð˕jmBhg[h˕ SKEWě(u'hSUPƯŚð˕ SKEWě(jBɦð˕ SKEWě'hɇƭʇȐRKLEêOBELUSqgMETqcõEƸC¡1hABːϡg!åPHh",
  "fԳhBİhGéLm ĽǆNIhĒùiOTɥ°ŬH ƸHhHEhǼhZâhɕhdTl ĽǆNIhYUDHlµhţHhũADHhMIMhƈhSEMKùhhϨhEhPEhcӛhΣhQAPHhƸHh",
  "ɾhTAWhɸɜBɕpGŃALpDHåTHg PǚHA,n@n ϦhZQAƢ,n@n ϦhRBASA,m@hϦ ZũA [uîUūhHBASA,m@m-ESASA ϦhESASA,m@hRWA",
  "HAhFEžŚȭhQǸǂYAhRUKKAŦhʋ<ʛ,r@iɚʛ,r@hOBLIƫ ɦ,t@hMUSIChĀREKH¡2g!SOGDɜZHâpŦPHpFEξIC!BğԂ [LY@lɉ)Ԃ,lԂҽ",
  "×:@zNʆ×:@)Ҳ,mWOʛ@)ė,lӑ% V@l% VȐHӅ,mɚʛҽ×:@hĒӅ <LY@)%ÒHlӑ% V@hƴиhɼ#ӎ,hgâ#Ǭmɚʛҽ ^:,mWOʛ <LY,hFğҲ@mɚ",
  "ʛҽ×:@hKEŊʬnԂ,xҽ×:@hɫʬp@hɮӅ@m%ÒHoVhũ#ĀhƴӅ <LY,l˱,hɼӅ <LY,ȐH#%Р!ǒ@x)ҲhwɼhwƴȐH#%Р!ǒ,hȽտ?Ǭ,zICл?ή,hF",
  "ARSI ȁտ?Ǭ,zРл?ή,zРл?ɏ@hǼտ?Ǭ,zCл?ή,hȁȫREEտ?Ǭ,zDРл?ή,ȐHտ?ɏ@hɼտ?ɏ,mӑVhŢӅ,aǚë!HAAhǂVIȀIhɮUhRAAhcBhLH",
  "AVIȀIhKAAFUhcçhVAAVUhɫUhFAAFUhDHAALUhǚAhLAAMUhGAAFUiNAVIȀIhɼUhDAVIȀIhhZhhThYAAhPAVIȀIhhJhhCHhǪAh",
  "cHHhdKhǚALUhZAAhΦUiAADHUhfDhTOhZOhâUheGHhQAAFUhWAAVUg ABAFILIifABAheIBIheEEBEEheUBUheOOBOOheEBEi",
  "eYBEYheOBOieABOAhSUKUNg!NAA¡14aNKOϋfƔfǬgɚfɏgšfǉgɋf|fɭd!AeEEeIeEeUeOOeOeDAGBASIƆeNeBAePAeTAeJAeĈe",
  "DAeRAfRAeSAeGBAeFAeKAeLAeNA WOLOSOeMAeƉfAeHAeWAeYAeƉ WOLOSOeJONA JAjĈȗd ӶϺ˵ʉufŲufƸśoi˿DESCģtfɗtf",
  "ŲtfƸśoNAƽIZϡo+ȭ,e˵ʉ AӖeqŲd; OO±NNENfdGBAŧUd ˖eԨeLAJAƉŪ¡2efDïAfOROME &ecTéNaSéƹAN!åFkBITkGéNkĒATk",
  "IYkBAAkZENkITkcTkYUTkKAAFkLABATkMIMkƈkSśAATkINkFIkǩADIYkQUFkƸHkǂNkTAAFj]¸n-åFlOCCLUɿlDáSHjÁDIFIE",
  "R!EƠǛǞ YUTjo] jӃ˿Eȡɳ˿AAshscsɳ˿AsgsAkcMODIFIER!Χkhҵs˿UsUkMODIFIER!Ikҵ˿IsIsOsSUKUNj] NĦDAA¡2ji ӘON",
  "wAFSAAQxNGEDwBAUwcATMAwǄYYAåAkABːϡkԯMELODőQIǩwZIQAAwQIǩwZAEFwǫUwARKAANUwSƌMôFAATwAƆAU¡1aŴDAIC!HA",
  "LQAiABjGjDjHiǸEƆiAZiITiATTjKSAjKjLjMjNjSiINiAPjSZjQjRjSHjTiDǸEƆiKADiâh AFFRICϡigVOąIZigGEž¡2iӘON",
  "¡1aSYRIAC!MåYåM ƄrJArƉrǪrƆtNArBHArRArűtLArǋ¡5ξIC!Ƚ#AǪ˓Fȿvfǣ ' m' =Ͽmi(mAǪ˓ŤRAvfϢ ' vΠȭ,v' Πȭvk(v",
  "Πȭ@mė,meAǪ˓ǣ '³ǚ)mf' =ϿmfAǪ˓Ϣ '¹SRAvǣ '³ǚ)(ʤmh' =ϿmhAǪ˓Ϣ '¹SRAv' ˱vg(ggÒTWEEL#ɳǐǮzØWpҲ@g!ǜN ȁg B",
  "ASEɦ ΠȭhkϹg!ɮ#ӑ% VȐH#ӑ% V@hǒȷ@lԂ@hKEŊӅ <LY@g < ʃ¡1hPɲ],icIõRE¡6h% ˵ʏ§-JUZjɩʏ ŞMAAMtMAåsTôEELhMAē",
  "ØAJIBhԳȽÁŦǋSh+D¿ēhgɒ¿ē ɳg!Bğ% V@l˱,hɢӅ,hkǒhgFğɉ)ήhƪȷ@hũÚĀhɫ#Ԃ,hȁӅ@)˱,vė,hƴ#LOOPhǼȷÙǜNhROHśYA ȁhɩ",
  "ȽhĒ#Ԃ@hmSADhGAF#ӑϿhұØWhZâ#ӑV,hâ#Ԃ@hŢȷ@hƪȷ@)NOʛ,hBğ% ɫ,hkPhTğ%ÓH,hƴ#% ɮ,hhȁӅ@)hAFRIĆ FEHpƪpɮhPğ% ",
  "VhgTigTigCHhhKEh˫#Ԃ,hmAFRIĆ ƪhmɢw@hũ#%Р!ǒ,hŁFg¤FARSI ȁjj˵oȁȫREEӅ@oʏÍHocZh˽ Πȭ,w@hSUKUN@h˽У@nhΠȭЬ",
  " h% ɩǼj˵ʏ©-RUBoSADoâoƪoɮ#ŤRAjlŲj˵ʏ ù-ǚLȿuS-SAJDAuN-NISFtSAKTAtQIFtWAQFAoĻTƇE]ERo&ÍFHAhDISPUǗ ϧ ü",
  "HhѱDȾ@hɈY³ǚnDȾnŤRAnFȿǔneDAMMneŤRhʉȲȭ,mҲ,mLOOP,mɰɉmҲ@mLOOP@hΘFȿǔmeDAMMmeŤRh% ˵ǼhFȿ#ɻnė,hŤRAȷ@h(ʳ,",
  "hg'h(ʳ@hg'h+ 'ʳ,qȷhlheDȾg] үÄƓGHUƆaDEVëĽI¥ӑԕnlnҚnѷk!ϺAlAmAlImIlUmUlӠtLlϣ ElcΧlElAIlϣ OlcΧlOlAUlK",
  "ˈGˈƄlCˈJˈƉlǪnHAlēnHAlƆlTˈDˈNAmƆlPˈBˈMAlYAlRAmRAlLAmLAnLAlVAlǂmSAmˇӃOEuOEl& NUKTAnAεHAlӡAtIuItUuU",
  "tӠzC RRtϣ EtcΧtEtAItϣ OtcΧtOtAUlҖlҵPƸHǚŶRA EtAWlOMlǐĬ¥ǯǪugANlԘTliACUTlҵϣ ˿EtUEuUEk!QAlKHHAldGlZA",
  "lDDDHAlcRlFAlYYAlӠRtLLkլzC LLl˚lȌlʻmƔmǬnɚmɏnšmǉnɋm|mɭlՆl& ˵SPACɟėk!ϣ AlOEmOElAWlUEmUElŵWARI ēlZH",
  "AlϩYAlGGAlJJAlԫlDēlBBAaBĤç¨JIi& ԕkՕ¡1h!ýiIjIiUjUiӠqL¡2iEiAI¡2iOiAUiֆēkņƆiT˅D˅NA¡1ѼуAiYAiRA¡1ȓ¡3i",
  "ǂjSýȒ¡2h¥NUKTAkAεņӡAqIrIqUrUqԠ¡2qEqAI¡2qOqAUiҖh!KɓAÒ¡8h AU¼NGTH]¡4h!Ƽȕ¡1iYYAiӠRqLLhլzL¡2iʻjւj|jɭ",
  "h!RA#=ĖĿALliϲh RUƟ]n &iCδCYгǤȲȪʌRÔRˢ˩RȲ ɥÔêǛ±NƒNúRrDENƒNúR ѬiISǂRiGìA]h!VˡҚh ՆiƾDHI]¡2aGURMUKHI¥",
  "ADAK ĂDIlflѷ¡1i!AkAjIkIjUkU¡4jEEjAI¡2jOOjAUjKˆGˆƄjCˆJˆƉjǪșjēșjƆjTˆDˆNA¡1jPˆBˆMAjYAȗ¡1ȖkLA¡1jVAjǂ",
  "¡1kAȕ¡2i¥NUKTA¡1jӡArIsIrUsU¡4rEErAI¡2rOOrAUjҖ¡3lǯAT¡7i!KHŇdGjZAjƼ¡1jFA¡7iϋkփk|kɭjǡPIjAēKjIRIjURA",
  "jEKÆKARj& YAŤHjՆ¡10cJñTI¥ԕlҚlѷ¡1i!AkAjIkIjUkUjӠrLiϝ ϣ E¡1i!EjAIiϝ ϣ O¡1i!OjAUjKˆGˆƄjCˆJˆƉjǪșjēșj",
  "ƆjTˆDˆNA¡1jPˆBˆMAjYAȗ¡1ȖkLA¡1jVAjǂkSAkAȕ¡2i¥NUKTAlAεŇӡArIsIrUsUrԠRrϣ E¡1rErAIrϣ O¡1rOrAUjҖ¡2jOM¡",
  "15i!ӠRrLLiլzLL¡2jʻkփk|kɭjՆjcRUƟ¡7i!Zņ¥SUKUNmHAēlMAēHlή-ė NUKTA,lhϥlnǬ-¡1aORIYA¥ԕiҚiѷ¡1f!AhAgIhIg",
  "UhUgӠoL¡2gEgAI¡2gOgAUgK˂G˂ƄgC˂J˂ƉgǪȒgēȒgƆgT˂D˂NA¡1gP˂B˂MAgYAgRA¡1gLAhLA¡1gVAgǂhSAhAȏ¡2f¥NUKTAiAε",
  "HAgӡAoIpIoUpUoӠxR¡2oEoAI¡2oOoAUgҖ¡7iɳɦgAI¼NGTH]hiU¡4f!ƼȐ¡1gYYAgӠRoLLfլxL¡2gʻhƔhǬiɚhɏišhǉiɋh|hɭgI",
  "SǂRf!WAf ԩ ѤtɒpЂѤSpɰѬTHt|HpЂѬTHS¡10aTAŽ ӱiѷ¡1f!AhAgIhIgUhU¡3gEhEgAI¡1gOhOgAUgKA¡3gƄgCA¡1gJA¡1gƉg",
  "Ǫ¡3gƆgTA¡3gNAhƆgPA¡3gMAgYAgRAhRAgLAhLAȓgVAgǂhSAhAȏ¡4fԏoIpIoUpU¡3oEpEoAI¡1oOpOoAUgҖ¡2gOM¡6gAU¼NGT",
  "H]¡14gʻhƔhǬiɚhɏišhǉiɋh|hɭgӿnԛrѰDgDAY &gcſTHgcYęgcDEBITgeĐDgcAS,gcRUƟgcNUɪ¡5bELUGU¥Ӷԕ,kìRAĂDUjҚjѷ",
  "jӶҚ,g!AiAhIiIhUiUhӠpL¡1hEiEhAI¡1hOiOhAUhK˃G˃ƄhC˃J˃ƉhǪȕhēȕhƆhT˃D˃NA¡1hP˃B˃MAhYAhRAiRAhLAȓȖhVAhǂiS",
  "AiAȐ¡2g¥NUKTýεHAhӡApIqIpUqUpӠyR¡1pEqEpAI¡1pOqOpAUhҖ¡7hLĤTH]hhAI ¡1g!ǩhDZAhRƼ¡2hNAKAñÉLLU¡2hӠRpLL",
  "gլyL¡2hʻiƔiǬjɚiɏjšiǉjɋi|iɭ¡7h&ÏDDŃhяNϋʝODDÉǾSȱɏrxƔrxǬsxɚrpƔʝɋryǬsyɚh& TUUMUaKAƆDA¥SPACɟԕklkՕkSID",
  "DŃh!ýiIjIiUjUiӠqL¡1iEjEiAI¡1iOjOiAUiֆēkņƆiT˅D˅NA¡1ѼуAiYAiRAȗȓȖ¡1iV˄jSýȒ¡2h¥NUKTAkAεņӡAqIrIqUrUqԠ",
  "¡1qErEqAI¡1qOrOqAUiҖ¡7iLĤTH]ihAI ¡6h!NAKAñÉLLUiFA¡1iӠRqLLhլzL¡2iʻjւj|jɭ¡1i& JIHVрkdUPADHŴ¡13aMåY",
  "åM¥ӶҚ,nìRAĂDUmҚmѷj!VˡҚkAlAkIlIkUlUkӠsL¡1kElEkAI¡1kOlOkAUkKˇGˇƄkCˇJˇƉkǪmňēmňƆkTˇDˇNAlƆkPˇBˇMAkYAk",
  "RAlRAkLAlLAmLAkVAkǂlSAlAkňTǪj¥<ȫ ЊmjɅULmAεňӡAsItIsUtUsӠz RR¡1sEtEsAI¡1sOtOsAUkҖj!ėËPHj¥ɵ¡4j!ĊLLU",
  " MrYrLLLj AU¼NGTH]kԩȲ-ё-ì-ǉǟTHxfļtЂ|IİStɰTWĥIİycENtЂTWĥIİStɰFIFTHj!қIIkӠRsLLjլz LL¡2kքl|lɭkӿrԛvѰ",
  "Dkԩ ѤxɒtЂѤStɰѬTHx|HtЂѬTHSkDø]j!ĊLLU NNrNrRRrLsLrK¡1aSINHå¥ԕkҚYAkdVISARG¡1h!üƆjfAjfEkfEifIjfIifUj",
  "fUigIRlfUjgLlfUifEjfEifAIifOjfOifAU¡3jfLƜRAë¹ipMAņԡ GipMAņKïAJAÃASIKYüiƾYAKA GüƆiԡ CipMAņԡ JipMA",
  "ņTAALUJAÃASIKYüqhƾYOOGAÃAKiƾYAKA JüƆiԡ TTiqMAņԡ DDiqMAŇgUURDHAJA NigƾYAKA DDiԡ TipMAņԡ DipMAņgDï",
  "AJA N¡1igƾYAKA Diԡ PipMAņԡ BipMAňfigAŸ BigYigR¡1igDïAJA L¡2igVigTAALUJA SikMUURDņlDïigHigMUURDHA",
  "JA LigF¡3hc¥AL-LAKU¡4iӡELA-PŕAqhťTI AEDqlDIGAqgťTI ISqjDIGAqgťTIÇA¡1qkDIGA¡1qhGAETTqKOMBUVAqhDIG",
  "A qKOMBU±KAvVA´A AELA-PŕAzmAA²GzAA GüNUKIǪql¡6iŰHϋoօ¡2iҵDIGA GAEǪ-PŕAxȀUKIǪiԯKUNēLIYA¡12aǚI®ñCʄK",
  "O¹IqcHO KHvUATvWAIvONtRAŦNGpNGO NGUpċ®ANvśvcApSO SOpċ®OEpYO YśpDO®ADApTOÇǓqHOÔANtNîſǝtPHUǚOpNO N",
  "ENpDO±KpTOÒOqHOÔǲvAńvƕpNO NUpBO BAŖIpPOÈAqHO PHǲpFO³pPHO ƢNpcFO FpPHOÍMƢOpMO¿pYO YAKpRO RUAqUpLO",
  " ɧqUpWOØENpSOÍLAsRUSIsSUApHO¶PpLO®ULApO¨GpHOÄKHUKpPAIȀNOIpSñ Apų´N-AKATpSñ AAvMuIvIuUEwEuUvUpƣNT",
  "HU¡4gδCY; BAHTȏƭʄSñ EuAEuOuAI¿IMUANzŖLAIpLAKŦNGYAOpųYAMOKsTAIKHUs EKtǝuRItĈǪWApǚNǚŦTpNIɣITpYéKKA",
  "NpcĺGMfʻgƔgǬhɚgɏhšgǉhɋg|gɭfĈƭʄîŦNKHUpKHOMUT¡37aLAO!KOfHOÑNG¡1iTAM¡1ePç GHAeNGOeCOePç®AeSOÒM¡1ePç",
  " JHAeNYOePç ƉjǪșjēșjƆeDOeTOfHOÑNGiTAMePç DHAeNOeBOePOfHOÑNGeFOÒMefPHeFOÑNGePç BHAeMOeYOeLO ɧ¡1iO",
  "OT¡1eWOeƾSKƹȴoSAfOÑNGegHePç űeOeHOÒMd ġIƩSeӡmų¹NmAAnMmInImYnYmUnUe&ÇLI Њeҵų KONeɽҵLOqNYO¡2eҵEnIm",
  "OmAYnI¡1eKO»¡1eʉ¿I EKnǝoInC÷WAeĆCġϡeNIGGAHŠ¡2eʻfƔfǬgɚfɏgšfǉgɋf|fɭ¡2eHOÄhMOd!KHMU GOjNYO¡32aTIɃN ",
  "ӜOMh] GʄYIG MGOÖUNCøD Aw-UM RNAM BCAD¿zd GʄΰjdIјYIG MGO MDUNjdɆɟYIG MGO SGABkdARET YIG MGO PHURȴ",
  "DjiYIG MGO ΰjSBRULȴDjBSŧ YIG MGOkiKA-ÎOGjINǙSYűBőΰjĔIMIʄΰ BʂjǂDjeƊS jfΰjkƊS jfƷ®ĢSPǲSkfGYA ɐjćET",
  " -DZUD RTAGSÀ ˿ĆjGʄΰh¾GOTYPE¥ĈD RTAGStgLHAGigõROLϷ¥SŁ GĆ -ĈRx-KHYUDÇxSDƕ TǆGSi& RĔ DKðGCIGvƊSvSU",
  "MpNAG GCIGuƊSpDKðRĔÃGiʻjւj|jɭjcɒ OoǬpɚoեo|oɭoZĩh] BSDǷRTAGSjƄS BZǲ Ɗ ZLAjćET -DZUD RTAGS BZHI MI",
  "G¬NjƄS BZǲ Sŀ RTAGSjĉ MGOjǩ -PHRUjGUG RTAGS GYONvASjî ŦƃGYONvASh¥YðTǃSkiMh!K˅G˅ƄiC˅JA¡1iƉiǪkņēkņ",
  "ƆiT˅D˅NAѼуAiǩkņDZAkņWAiZŇAi-AiYAiRAiL˄jSýȒiAiKǋiFIXED-ɎÊiKKAiƼ¡4hԏqIrIqUrUqԠyLzLqErEqOrOi& RJESÑ",
  " ƄÌlNAM BCADiҵӛIzIIi& Ɗ ZLAÃA°kSNA LDANh]´ŪTAjcPALUh¥LCI RTAGSkgȀGkLCE ǩ¬NkeMCHUkGRU¬N RGYśSoiŹk",
  "ӑMCHU¬NieǑ˹D¥LCE ǩueMCHUuiӑr!KAtHAsGAtHAsƄsCAtHAsJA¡1sƉsǪuHAsēuHAsƆsTAtHAsDAtHAsNAsPAtHAsBAtHAsM",
  "AsǩuHAsDZAuHAsWAsZHAtAs-AsYAsRAsLAsǂtSAtAsHAsAsKǋsFIXED-ɎØzORM YAzORMÊ¡1iKU RU Ŧr BZHI MIG¬NiĆǠL",
  "Ϡ&ϒ BĚxf˾xĆGÓ-UxSBUB -ĈLh; DRIL«jRDO RJEjPADMA GDANjRDO RJE RGYA ɐjPHURÇjNOR«p ƊS -KHYILqhGSUMqh",
  "BZHI¡1h¥RĔÃG RĔ DKARtGSUMh] BSKA-ÎOG GI MGO RGȀjoMƉM YIjƊS ΰjIјBRDA RƊƃYIG MGO MDUN¿jdɆɟBRDA RƊƃ",
  "YIG MGO SGABa'-ķɟSVõI¦q(a'-ķɟSVõI &ȷSav(aTIɃN]¼A˝MĈN RTAGSjpǥIL¡37aMȀŵ!K˅G˅ƄiC˅J˅ƉjcNiǪkņēkņƆiT˅",
  "D˅NAѼуAiYAiRAȓiWAiSAȒiűi˄N AiIjIiUjUiEiſ EiOiAUhӃTè AAqcqIrIqUrUqEqAIqſ IIuOqE,iӱkɉkѷmưAkASATiԖа",
  " YAzLÊzLØzL´h!GƲTÍhϋjւj|jɭi&Я Ѫkhh;¾CAʈjčƦǗjcAļEɬŜjGENIʈh!ǂjSAiӠrRqLrLhӃԠyLzLh!ſ ƄmJHAmBBAoEh ԖÁ",
  "NаÃzEĖL¿zEĖL»h!SGAWϕȴhӃSGAWϕ EUiʉ] SGAWϕ´ǜzKE PHOh!WĭERN PWOϕÔAz PWAhӃWĭERN PWOϕ EUzWOϕ UEi& WĭE",
  "RN PWOϕʧ-1zĢʉ-2zĢʉ-3zĢʉ-4zĢʉ-5h!EõERN PWOϕ Ɔz YWAzc GHhӃGEBAϕ IqKüH OEwUwEEh!ǂN¹oHAnGAnCAnZAnƉnD",
  "AnNAnƢnFAnBAnǚnch ԖȴNаØiҵǂN AAvEw,vϨYi&ȴNʧ-2u3u5u6pCOUNCILʧ-2ȩ-3xEMƢǞʧh!RUųÇLAǲ³h¥RUųÇLAǲʧ-5iǂNϋ",
  "oօi& ŦMTIʧ-1w3iӡIǢ AxIh;ȴNȲoEμˀaGEORGɜ$!ANlcBlcGlDONlENlVINlZENlǔlINlKANlLASlŴlNARlONlƝlcZHlRAEl",
  "ƾlTARlUNlƢRldKlGńlQARlɾldCmANlJILlcCmŅlXANlcJHșEȚIElWEșRmOE¡1lYN¡5lAEN¡2i!ANjcBjcGjDONjENjVINjZE",
  "NjǔjINjKANȖSjŴjNARjONjƝjcZHȗEjƾjTARjUNjƢRjdKjGńjQARjɾjdCkANjJILjcCkŅjXANjcJHȕEȘIEjWEȕRkOEjFIjYNj",
  "ELIFIjѱGANjâi ɵˮӯԆGEORGɜNARaGEORGŐ!AENȕRD &jcLABŏańGUL®OSEƕ ϮqgάqΔqЄqgάqΟqΒqΚqfάrIOSrdƾGSq˸q˔qfά",
  "qCϪqϭHqѯqѢq˴qΔмqάΔqΔ-ЄwΚqЄмqΟ-ΔqάΟqΟ-˴qţYEOUNΟqΒ-ΚqţYEOUNΒqΚмwΔwЄwʀzSмzS-ЄzS-ΚxƾGʀxIOS-˔wfxϪwѯwѢ",
  "qţYEOUNΚyfάqʀмvΔvЄvΟvΒvΚzPмvάʀv˸v˔wϪvϭHvѯvѢv˴qĊTUEUMʀzdƾGSreEƕCɖMzeUMάqeƛq˸мwЄwΒwΚwʀweƛqά˸q˸-˔xϪ",
  "wѯwѢqYES˸qf˔-rHITUEUM˔yfάrfEƕCɖMzfUMάrϪ-ϭHy˴tTUEUMCϪrkEƕĊqѢ-ΚqţYEOUNѢqά˴qfYEOƷqϮ-ЄqΔʴw˔w˴qЄ-ΟqFŕ",
  "ERhmJǲrAsErYAtErEOrErYEOsErOrWAtErOErYOrUrWEOȡIrYUrEUrYIrIrA-OtUrYA-OuYOrEO-OȢEUrYEO-OvUrO-EOtEt",
  "YEtOtUrYO-YAwEvEOuOuIrU-þtEO-EUtYEtUrYU-þOuEuYEOvEȢIrEU-UuEUrYI-UrI-AtYAtOtUtEUtñEArfw-EOxUxIrάñ",
  "EArA-EUrYA-UsEO-YArevEiƕSEƕ ϮrgάrϮʴrΔw-˔x˴rЄrΟwмxΒxΚxʀxѯxѢx˴rΒrΚwʴresdƾGSr˸r˔sϪrϭHrѯrѢr˴rϮ-Οyʀмr",
  "hΔxЄxʀxeƛxѯrЄмyΟrΟмʴxΔxЄzKĳ-˴rάΟrΟ-ΒмzEUMʴxfΚzEUP-˴xţYEOUNΚxάʀxeƛxϭHxYEOƷ˴rΒмxΟxΚxʀydƾGSxeƛxCϪx˴",
  "rţYEOUNΒrΚ-ΟxѢx˴rţYEOUNΚrʀмwЄwΟwΚrƛʀr˸мxgάrά˸r˸-ϭHrYES˸zʴze-ƛrѢ-ΚrţYEOUNѢr˴-ΔxΟxΒxΚrYEOƷ˴rϮ-ΔyΚy",
  "CϪyϭHy˴rάΔaİIOPőӜHՏuAsLմHHAհMմSZAհRմSՏtWAtHAհQՏuAtWA¡1uIuAþĶ¡2tHAȢIuAþĶuO¡1uWA¡1vIvAAvEEvE¡2sBմV",
  "մTմCմXՏuAtWA¡1uIuAþĶ¡2sNՏtWAtYAհGѓAz Uz Iz AAz Ğ Ez OzØsKՏuAtWA¡1uIuAþĶ¡2tXAȢIuAþĶuO¡1uWA¡1vIvAA",
  "vEEvE¡2sWՏuAsƢRYNGEäAzEäUzEäIzEäAAzEäĞEäEzEäO¡1sZՏtWAtHAհYՏuAsDՏtWAtDAհJմGՏuAtWA¡1uIuAþĶ¡2tGAȢIu",
  "AþĶuOuWAAsǚհĈհƢհǩȢIuAþĶuOuWAtZAȢIuAþĶuOvAsFմPմRYAscMscF¡2jӶGEžˀ)ЌLĤTH]tntGEžϡjfSECjʏΫjӏj˖jɽ˕jfjf",
  "ƧķE jәjɵˮӯj?փk|kɭjӿrκrcōqdFOrcIFqcǉrcɋq|YqɭTYqёqǘӀ¡3jӜSEBATBEIT MWAsMWIuEĶsSEBATBEIT BWAsBWIuEĶs",
  "SEBATBEIT FWAsFWIuEĶsSEBATBEIT PWAsPWIuEĶjǢAL] YIZETqcĕqRIKRIKqgϺqDIFATqcKENqĊRETqcHIDqfĕET-qŧT¡",
  "6aĉRƎE!AjEjIjOjUjVjGAjKAjGEkIkOkUkVȕȘIkOkUkVȖȘIkOkUkVjMAȘIkOkUjNAjcHjNAHȘIkOkUkVjQUAlElIlOlUlVjS",
  "AjSȘIkOkUkVjDAjTAjDEjTEjDIjTIjDOkUkVkLAjcTlElIlOlUlVkSAlElIlOlUlVjWAȘIkOkUkVjYAȘIkOkUkVjMV¡2i %!",
  "YEmImOmUmVlMV¡2"]

end RepoAtlas.CharName
