import LogHarvest.Text.Table.NameRun

/-!
# Names: the scripts of the supplementary plane
-/

namespace LogHarvest.Text.Table

def ancientNames : List NameRun := [
  ⟨0x10000, [
    "aLINEAR B SYLLABLE B008 AdB038 EdB028 IdB061 OdB010 UdB001 DAdB045 DEdB007 DIdB014 DO",
    "dB051 DUdB057 JAdB046 JE.dB036 JOdB065 JUdB077 KAdB044 KEdB067 KIdB070 KOdB081 KUdB080 MA",
    "dB013 MEdB073 MIdB015 MOdB023 MUdB006 NAdB024 NEdB030 NIdB052 NOdB055 NUdB003 PAdB072 PE",
    "dB039 PIdB011 POdB050 PUdB016 QAdB078 QEdB021 QIdB032 QO.dB060 RAdB027 REdB053 RIdB002 RO",
    "dB026 RUdB031 SAdB009 SEdB041 SIdB012 SOdB058 SUdB059 TAdB004 TEdB037 TIdB005 TOdB069 TU",
    "dB054 WAdB075 WEdB040 WIdB042 WO.dB017 ZAdB074 ZE.dB020 ZOdB025 A2dB043 A3dB085 AUdB071 DWE",
    "dB090 DWOdB048 NWAdB029 PU2dB062 PTEdB076 RA2dB033 RA3dB068 RO2dB066 TA2dB087 TWEdB091 TWO.",
    ".cSYMBOL B018dB019dB022dB034dB047dB049dB056dB063dB064dB079dB082dB083dB086dB089"]⟩,
  ⟨0x10080, [
    "aLINEAR B IDEOGRAM B100 MANdB102 WOMANdB104 DEERdB105 EQUIDdB105F MAREdB105M STALLION",
    "dB106F EWEdB106M RAMdB107F SHE-GOATdB107M HE-GOATdB108F SOWdB108M BOARdB109F COWdB109M BULL",
    "dB120 WHEATdB121 BARLEYdB122 OLIVEdB123 SPICEdB125 CYPERUScMONOGRAM B127 KAPOdB128 KANAKO",
    "cIDEOGRAM B130 OILdB131 WINEdB132cMONOGRAM B133 AREPAdB135 MERIcIDEOGRAM B140 BRONZE",
    "dB141 GOLDdB142dB145 WOOLdB146dB150dB151 HORNdB152dB153dB154cMONOGRAM B156 TURO2",
    "cIDEOGRAM B157dB158dB159 CLOTHdB160dB161dB162 GARMENTdB163 ARMOURdB164dB165dB166dB167dB168",
    "dB169dB170dB171dB172dB173 MONTHdB174dB176 TREEdB177dB178dB179dB180dB181dB182dB183dB184dB185",
    "dB189dB190dB191 HELMETdB220 FOOTSTOOLdB225 BATHTUBdB230 SPEARdB231 ARROWdB232dB233 SWORD",
    "dB234dB236dB240 WHEELED CHARIOTdB241 CHARIOTdB242 CHARIOT FRAMEdB243 WHEELdB245dB246",
    "cMONOGRAM B247 DIPTEcIDEOGRAM B248dB249dB251dB252dB253dB254 DARTdB255dB256dB257dB258dB259",
    "dVESSEL B155eB200eB201eB202eB203eB204eB205eB206eB207eB208eB209eB210eB211eB212eB213eB214",
    "eB215eB216eB217eB218eB219eB221eB222eB226eB227eB228eB229eB250eB305"]⟩,
  ⟨0x10100, [
    "aAEGEAN WORD SEPARATOR LINEdDOTbCHECK MARK....bNUMBER ONEcTWOcTHREEcFOURcFIVEcSIXcSEVEN",
    "cEIGHTcNINEcTENcTWENTYcTHIRTYcFORTYcFIFTYcSIXTYcSEVENTYcEIGHTYcNINETYcONE HUNDRED",
    "cTWO HUNDREDcTHREE HUNDREDcFOUR HUNDREDcFIVE HUNDREDcSIX HUNDREDcSEVEN HUNDRED",
    "cEIGHT HUNDREDcNINE HUNDREDcONE THOUSANDcTWO THOUSANDcTHREE THOUSANDcFOUR THOUSAND",
    "cFIVE THOUSANDcSIX THOUSANDcSEVEN THOUSANDcEIGHT THOUSANDcNINE THOUSANDcTEN THOUSAND",
    "cTWENTY THOUSANDcTHIRTY THOUSANDcFORTY THOUSANDcFIFTY THOUSANDcSIXTY THOUSAND",
    "cSEVENTY THOUSANDcEIGHTY THOUSANDcNINETY THOUSAND...bWEIGHT BASE UNITcFIRST SUBUNIT",
    "cSECOND SUBUNITcTHIRD SUBUNITcFOURTH SUBUNITbDRY MEASURE FIRST SUBUNIT",
    "bLIQUID MEASURE FIRST SUBUNITbMEASURE SECOND SUBUNITcTHIRD SUBUNIT",
    "aGREEK ACROPHONIC ATTIC ONE QUARTEReHALFeDRACHMAdFIVEdFIFTYdFIVE HUNDREDeTHOUSAND",
    "dFIFTY THOUSANDdFIVE TALENTSdTEN TALENTSdFIFTY TALENTSdONE HUNDRED TALENTS",
    "dFIVE HUNDRED TALENTSdONE THOUSAND TALENTSdFIVE THOUSAND TALENTSeSTATERSdTEN STATERS",
    "dFIFTY STATERSdONE HUNDRED STATERSdFIVE HUNDRED STATERSdONE THOUSAND STATERS",
    "dTEN THOUSAND STATERSdFIFTY THOUSAND STATERSdTEN MNAScHERAEUM ONE PLETHRONcTHESPIAN ONE",
    "cHERMIONIAN ONEcEPIDAUREAN TWOcTHESPIAN TWOcCYRENAIC TWO DRACHMAScEPIDAUREAN TWO DRACHMAS",
    "cTROEZENIAN FIVEdTENdTEN ALTERNATE FORMcHERMIONIAN TENcMESSENIAN TENcTHESPIAN TENdTHIRTY",
    "cTROEZENIAN FIFTYdFIFTY ALTERNATE FORMcHERMIONIAN FIFTYcTHESPIAN FIFTYdONE HUNDRED",
    "dTHREE HUNDREDcEPIDAUREAN FIVE HUNDREDcTROEZENIAN FIVE HUNDREDcTHESPIAN FIVE HUNDRED",
    "cCARYSTIAN FIVE HUNDREDcNAXIAN FIVE HUNDREDcTHESPIAN ONE THOUSANDdFIVE THOUSAND",
    "cDELPHIC FIVE MNAScSTRATIAN FIFTY MNASbONE HALF SIGNdSIGN ALTERNATE FORMbTWO THIRDS SIGN",
    "bTHREE QUARTERS SIGNbYEAR SIGNbTALENT SIGNbDRACHMA SIGNbOBOL SIGNbTWO OBOLS SIGN",
    "bTHREE OBOLS SIGNbFOUR OBOLS SIGNbFIVE OBOLS SIGNbMETRETES SIGNbKYATHOS BASE SIGN",
    "bLITRA SIGNbOUNKIA SIGNbXESTES SIGNbARTABE SIGNbAROURA SIGNbGRAMMA SIGNbTRYBLION BASE SIGN",
    "bZERO SIGNbONE QUARTER SIGNbSINUSOID SIGNbINDICTION SIGNaNOMISMA SIGN.aROMAN SEXTANS SIGN",
    "bUNCIA SIGNbSEMUNCIA SIGNbSEXTULA SIGNbDIMIDIA SEXTULA SIGNbSILIQUA SIGNbDENARIUS SIGN",
    "bQUINARIUS SIGNbSESTERTIUS SIGNbDUPONDIUS SIGNbAS SIGNbCENTURIAL SIGNaASCIA SYMBOL...",
    "aGREEK SYMBOL TAU RHO"]⟩,
  ⟨0x101D0, [
    "aPHAISTOS DISC SIGN PEDESTRIANdPLUMED HEADdTATTOOED HEADdCAPTIVEdCHILDdWOMANdHELMET",
    "dGAUNTLETdTIARAdARROWdBOWdSHIELDdCLUBdMANACLESdMATTOCKdSAWdLIDdBOOMERANGdCARPENTRY PLANE",
    "dDOLIUMdCOMBdSLINGdCOLUMNdBEEHIVEdSHIPdHORNdHIDEdBULLS LEGdCATdRAMdEAGLEdDOVEdTUNNYdBEE",
    "dPLANE TREEdVINEdPAPYRUSdROSETTEdLILYdOX BACKdFLUTEdGRATERdSTRAINERdSMALL AXEdWAVY BAND",
    "dCOMBINING OBLIQUE STROKE"]⟩,
  ⟨0x10280, [
    "aLYCIAN LETTER AcEcBcBHcGcDcIcWcZcTHcJcKcQcLcMcNcMMcNNcUcPcKKcRcScTcTTcANcENcHcX...",
    "aCARIAN LETTER AcP2cDcLcUUUcRcLDcA2cQcBcMcOcD2cTcSHcSH2cScC-18cUcNNcXcNcTT2cPcSScIcEcUUUUcK",
    "cK2cNDcUUcGcG2cSTcST2cNGcIIcC-39cTTcUUU2cRRcMBcMB2cMB3cMB4cLD2cE2cUUU3...............",
    "aCOPTIC EPACT THOUSANDS MARKcDIGIT ONEdTWOdTHREEdFOURdFIVEdSIXdSEVENdEIGHTdNINEcNUMBER TEN",
    "dTWENTYdTHIRTYdFORTYdFIFTYdSIXTYdSEVENTYdEIGHTYdNINETYdONE HUNDREDdTWO HUNDRED",
    "dTHREE HUNDREDdFOUR HUNDREDdFIVE HUNDREDdSIX HUNDREDdSEVEN HUNDREDdEIGHT HUNDRED",
    "dNINE HUNDRED"]⟩,
  ⟨0x10300, [
    "aOLD ITALIC LETTER AdBEdKEdDEdEdVEdZEdHEdTHEdIdKAdELdEMdENdESHdOdPEdSHEdKUdERdESdTEdUdEKS",
    "dPHEdKHEdEFdERSdCHEdIIdUUdESScNUMERAL ONEdFIVEdTENdFIFTY.........cLETTER YEdNORTHERN TSE",
    "dSOUTHERN TSEaGOTHIC LETTER AHSAcBAIRKANcGIBAcDAGScAIHVUScQAIRTHRAcIUJAcHAGLcTHIUTHcEIS",
    "cKUSMAcLAGUScMANNAcNAUTHScJERcURUScPAIRTHRAcNINETYcRAIDAcSAUILcTEIWScWINJAcFAIHUcIGGWS",
    "cHWAIRcOTHALcNINE HUNDRED.....aOLD PERMIC LETTER ANdBURdGAIdDOIdEdZHOIdDZHOIdZATAdDZITAdI",
    "dKOKEdLEIdMENOEdNENOEdVOOIdPEEIdREIdSIIdTAIdUdCHERYdSHOOIdSHCHOOIdYRYdYERUdOdOOdEFdHAdTSIU",
    "dVERdYERdYERIdYATdIEdYUdYAdIAaCOMBINING OLD PERMIC LETTER ANeDOIeZATAeNENOEeSII.....",
    "aUGARITIC LETTER ALPAcBETAcGAMLAcKHAcDELTAcHOcWOcZETAcHOTAcTETcYODcKAFcSHINcLAMDAcMEMcDHAL",
    "cNUNcZUcSAMKAcAINcPUcSADEcQOPAcRASHAcTHANNAcGHAINcTOcIcUcSSU.bWORD DIVIDER",
    "aOLD PERSIAN SIGN AdIdUdKAdKUdGAdGUdXAdCAdJAdJIdTAdTUdDAdDIdDUdTHAdPAdBAdFAdNAdNUdMAdMIdMU",
    "dYAdVAdVIdRAdRUdLAdSAdZAdSHAdSSAdHA....dAURAMAZDAAdAURAMAZDAA-2dAURAMAZDAAHAdXSHAAYATHIYA",
    "dDAHYAAUSHdDAHYAAUSH-2dBAGAdBUUMISHcWORD DIVIDERcNUMBER ONEdTWOdTENdTWENTYdHUNDRED"]⟩,
  ⟨0x10400, [
    "aDESERET CAPITAL LETTER LONG IeEeAeAHeOeOOdSHORT IeEeAeAHeOeOOdAYdOWdWUdYEEdHdPEEdBEEdTEE",
    "dDEEdCHEEdJEEdKAYdGAYdEFdVEEdETHdTHEEdESdZEEdESHdZHEEdERdELdEMdENdENGdOIdEW",
    "bSMALL LETTER LONG IeEeAeAHeOeOOdSHORT IeEeAeAHeOeOOdAYdOWdWUdYEEdHdPEEdBEEdTEEdDEEdCHEE",
    "dJEEdKAYdGAYdEFdVEEdETHdTHEEdESdZEEdESHdZHEEdERdELdEMdENdENGdOIdEWaSHAVIAN LETTER PEEPcTOT",
    "cKICKcFEEcTHIGHcSOcSUREcCHURCHcYEAcHUNGcBIBcDEADcGAGcVOWcTHEYcZOOcMEASUREcJUDGEcWOEcHA-HA",
    "cLOLLcMIMEcIFcEGGcASHcADOcONcWOOLcOUTcAHcROARcNUNcEATcAGEcICEcUPcOAKcOOZEcOILcAWEcAREcOR",
    "cAIRcERRcARRAYcEARcIANcYEWaOSMANYA LETTER ALEFcBAcTAcJAcXAcKHAcDEELcRAcSAcSHIINcDHAcCAYNcGA",
    "cFAcQAAFcKAAFcLAANcMIINcNUUNcWAWcHAcYAcAcEcIcOcUcAAcEEcOO..bDIGIT ZEROcONEcTWOcTHREEcFOUR",
    "cFIVEcSIXcSEVENcEIGHTcNINE......aOSAGE CAPITAL LETTER AdAIdAINdAHdBRAdCHAdEHCHAdEdEINdHA",
    "dHYAdIdKAdEHKAdKYAdLAdMAdNAdOdOINdPAdEHPAdSAdSHAdTAdEHTAdTSAdEHTSAdTSHAdDHAdUdWAdKHAdGHAdZA",
    "dZHA....bSMALL LETTER AdAIdAINdAHdBRAdCHAdEHCHAdEdEINdHAdHYAdIdKAdEHKAdKYAdLAdMAdNAdOdOIN",
    "dPAdEHPAdSAdSHAdTAdEHTAdTSAdEHTSAdTSHAdDHAdUdWAdKHAdGHAdZAdZHA"]⟩,
  ⟨0x10500, [
    "aELBASAN LETTER AcBEcCEcCHEcDEcNDEcDHEcEIcEcFEcGEcGJEcHEcIcJEcKEcLEcLLEcMEcNEcNAcNJEcOcPE",
    "cQEcREcRREcSEcSHEcTEcTHEcUcVEcXEcYcZEcZHEcGHEcGHAMMAcKHE........",
    "aCAUCASIAN ALBANIAN LETTER ALTdBETdGIMdDATdEBdZARLdEYNdZHILdTASdCHAdYOWDdZHAdIRBdSHAdLAN",
    "dINYAdXEYNdDYANdCARdJHOXdKARdLYITdHEYTdQAYdAORdCHOYdCHIdCYAYdMAQdQARdNOWCdDZYAYdSHAKdJAYN",
    "dONdTYAYdFAMdDZAYdCHATdPENdGHEYSdRATdSEYKdVEYZdTIWRdSHOYdIWNdCYAWdCAYNdYAYDdPIWRdKIW.......",
    "....cCITATION MARKaVITHKUQI CAPITAL LETTER AdBBEdBEdCEdCHEdDEdDHEdEIdEdFEdGA.dHAdHHAdIdIJE",
    "dJEdKAdLAdLLAdMEdNEdNJEdOdPEdQAdRE.dSEdSHEdTEdTHEdUdVEdXE.dYdZE.bSMALL LETTER AdBBEdBEdCE",
    "dCHEdDEdDHEdEIdEdFEdGA.dHAdHHAdIdIJEdJEdKAdLAdLLAdMEdNEdNJEdOdPEdQAdRE.dSEdSHEdTEdTHEdUdVE",
    "dXE.dYdZE"]⟩,
  ⟨0x10600, [
    "aLINEAR A SIGN AB001dAB002dAB003dAB004dAB005dAB006dAB007dAB008dAB009dAB010dAB011dAB013",
    "dAB016dAB017dAB020dAB021dAB021FdAB021MdAB022dAB022FdAB022MdAB023dAB023MdAB024dAB026dAB027",
    "dAB028dA028BdAB029dAB030dAB031dAB034dAB037dAB038dAB039dAB040dAB041dAB044dAB045dAB046dAB047",
    "dAB048dAB049dAB050dAB051dAB053dAB054dAB055dAB056dAB057dAB058dAB059dAB060dAB061dAB065dAB066",
    "dAB067dAB069dAB070dAB073dAB074dAB076dAB077dAB078dAB079dAB080dAB081dAB082dAB085dAB086dAB087",
    "dA100-102dAB118dAB120dA120BdAB122dAB123dAB131AdAB131BdA131CdAB164dAB171dAB180dAB188dAB191",
    "dA301dA302dA303dA304dA305dA306dA307dA308dA309AdA309BdA309CdA310dA311dA312dA313AdA313BdA313C",
    "dA314dA315dA316dA317dA318dA319dA320dA321dA322dA323dA324dA325dA326dA327dA328dA329dA330dA331",
    "dA332dA333dA334dA335dA336dA337dA338dA339dA340dA341dA342dA343dA344dA345dA346dA347dA348dA349",
    "dA350dA351dA352dA353dA354dA355dA356dA357dA358dA359dA360dA361dA362dA363dA364dA365dA366dA367",
    "dA368dA369dA370dA371dA400-VASdA401-VASdA402-VASdA403-VASdA404-VASdA405-VASdA406-VAS",
    "dA407-VASdA408-VASdA409-VASdA410-VASdA411-VASdA412-VASdA413-VASdA414-VASdA415-VASdA416-VAS",
    "dA417-VASdA418-VASdA501dA502dA503dA504dA505dA506dA508dA509dA510dA511dA512dA513dA515dA516",
    "dA520dA521dA523dA524dA525dA526dA527dA528dA529dA530dA531dA532dA534dA535dA536dA537dA538dA539",
    "dA540dA541dA542dA545dA547dA548dA549dA550dA551dA552dA553dA554dA555dA556dA557dA559dA563dA564",
    "dA565dA566dA568dA569dA570dA571dA572dA573dA574dA575dA576dA577dA578dA579dA580dA581dA582dA583",
    "dA584dA585dA586dA587dA588dA589dA591dA592dA594"]⟩,
  ⟨0x10700, [
    "aLINEAR A SIGN A595dA596dA598dA600dA601dA602dA603dA604dA606dA608dA609dA610dA611dA612dA613",
    "dA614dA615dA616dA617dA618dA619dA620dA621dA622dA623dA624dA626dA627dA628dA629dA634dA637dA638",
    "dA640dA642dA643dA644dA645dA646dA648dA649dA651dA652dA653dA654dA655dA656dA657dA658dA659dA660",
    "dA661dA662dA663dA664.........dA701 AdA702 BdA703 DdA704 EdA705 FdA706 HdA707 JdA708 K",
    "dA709 LdA709-2 L2e3 L3e4 L4e6 L6dA710 WdA711 XdA712 YdA713 OMEGAdA714 ABBdA715 BBdA717 DD",
    "dA726 EYYYdA732 JE..........dA800dA801dA802dA803dA804dA805dA806dA807"]⟩,
  ⟨0x10780, [
    "aMODIFIER LETTER SMALL CAPITAL AAcSUPERSCRIPT TRIANGULAR COLONdHALF TRIANGULAR COLON",
    "cSMALL AEdCAPITAL BdB WITH HOOK.dDZ DIGRAPHeDIGRAPH WITH RETROFLEX HOOKgCURLdDEZH DIGRAPH",
    "dD WITH TAILfHOOKfHOOK AND TAILdREVERSED EdCLOSED REVERSED OPEN EdFENG DIGRAPHdRAMS HORN",
    "dCAPITAL GdG WITH HOOKdCAPITAL G WITH HOOKdH WITH STROKEdCAPITAL HdHENG WITH HOOK",
    "dDOTLESS J WITH STROKE AND HOOKdLS DIGRAPHdLZ DIGRAPHdL WITH BELTdCAPITAL L WITH BELT",
    "dL WITH RETROFLEX HOOK AND BELTdLEZHdLEZH WITH RETROFLEX HOOKdTURNED YeY WITH BELT",
    "dO WITH STROKEdCAPITAL OEdCLOSED OMEGAdQdTURNED R WITH LONG LEGhLEG AND RETROFLEX HOOK",
    "dR WITH TAILfFISHHOOKdCAPITAL RdTC DIGRAPH WITH CURLdTS DIGRAPHeDIGRAPH WITH RETROFLEX HOOK",
    "dTESH DIGRAPHdT WITH RETROFLEX HOOKdV WITH RIGHT HOOK.dCAPITAL YcGLOTTAL STOP WITH STROKE",
    "cREVERSED GLOTTAL STOP WITH STROKEcBILABIAL CLICKcDENTAL CLICKcLATERAL CLICKcALVEOLAR CLICK",
    "cRETROFLEX CLICK WITH RETROFLEX HOOKcSMALL S WITH CURL"]⟩,
  ⟨0x10800, [
    "aCYPRIOT SYLLABLE AcEcIcOcUcJA..cJO.cKAcKEcKIcKOcKUcLAcLEcLIcLOcLUcMAcMEcMIcMOcMUcNAcNEcNI",
    "cNOcNUcPAcPEcPIcPOcPUcRAcREcRIcROcRUcSAcSEcSIcSOcSUcTAcTEcTIcTOcTUcWAcWEcWIcWO.cXAcXE...cZA",
    "..cZOaIMPERIAL ARAMAIC LETTER ALEPHdBETHdGIMELdDALETHdHEdWAWdZAYINdHETHdTETHdYODHdKAPH",
    "dLAMEDHdMEMdNUNdSAMEKHdAYINdPEdSADHEdQOPHdRESHdSHINdTAW.cSECTION SIGNcNUMBER ONEdTWOdTHREE",
    "dTENdTWENTYdONE HUNDREDeTHOUSANDdTEN THOUSANDaPALMYRENE LETTER ALEPHcBETHcGIMELcDALETHcHE",
    "cWAWcZAYINcHETHcTETHcYODHcKAPHcLAMEDHcMEMcFINAL NUNcNUNcSAMEKHcAYINcPEcSADHEcQOPHcRESHcSHIN",
    "cTAWbLEFT-POINTING FLEURONbRIGHT-POINTING FLEURONbNUMBER ONEcTWOcTHREEcFOURcFIVEcTENcTWENTY",
    "aNABATAEAN LETTER FINAL ALEPHcALEPHcFINAL BETHcBETHcGIMELcDALETHcFINAL HEcHEcWAWcZAYINcHETH",
    "cTETHcFINAL YODHcYODHcFINAL KAPHcKAPHcFINAL LAMEDHcLAMEDHcFINAL MEMcMEMcFINAL NUNcNUN",
    "cSAMEKHcAYINcPEcSADHEcQOPHcRESHcFINAL SHINcSHINcTAW........bNUMBER ONEcTWOcTHREEcFOUR",
    "bCRUCIFORM NUMBER FOURbNUMBER FIVEcTENcTWENTYcONE HUNDRED"]⟩,
  ⟨0x108E0, [
    "aHATRAN LETTER ALEPHcBETHcGIMELcDALETH-RESHcHEcWAWcZAYNcHETHcTETHcYODHcKAPHcLAMEDHcMEMcNUN",
    "cSAMEKHcAYNcPEcSADHEcQOPH.cSHINcTAW.....bNUMBER ONEcFIVEcTENcTWENTYcONE HUNDRED"]⟩,
  ⟨0x10900, [
    "aPHOENICIAN LETTER ALFcBETcGAMLcDELTcHEcWAUcZAIcHETcTETcYODcKAFcLAMDcMEMcNUNcSEMKcAINcPE",
    "cSADEcQOFcROSHcSHINcTAUbNUMBER ONEcTENcTWENTYcONE HUNDREDcTWOcTHREE...bWORD SEPARATOR",
    "aLYDIAN LETTER AcBcGcDcEcVcIcYcKcLcMcNcOcRcSScTcUcFcQcScTTcANcENcLYcNNcC.....",
    "bTRIANGULAR MARK"]⟩,
  ⟨0x10980, [
    "aMEROITIC HIEROGLYPHIC LETTER AdEdIdOdYAdWAdBAdBA-2dPAdMAdNAdNA-2dNEdNE-2dRAdRA-2dLAdKHA",
    "dHHAdSAdSA-2dSEdKAdQAdTAdTA-2dTEdTE-2dTOdDAcSYMBOL VIDJdVIDJ-2bCURSIVE LETTER AdEdIdOdYAdWA",
    "dBAdPAdMAdNAdNEdRAdLAdKHAdHHAdSAdARCHAIC SAdSEdKAdQAdTAdTEdTOdDA....",
    "cFRACTION ELEVEN TWELFTHSdONE HALFcLOGOGRAM RMTdIMNcNUMBER ONEdTWOdTHREEdFOURdFIVEdSIX",
    "dSEVENdEIGHTdNINEdTENdTWENTYdTHIRTYdFORTYdFIFTYdSIXTYdSEVENTY..dONE HUNDREDdTWO HUNDRED",
    "dTHREE HUNDREDdFOUR HUNDREDdFIVE HUNDREDdSIX HUNDREDdSEVEN HUNDREDdEIGHT HUNDRED",
    "dNINE HUNDREDdONE THOUSANDdTWO THOUSANDdTHREE THOUSANDdFOUR THOUSANDdFIVE THOUSAND",
    "dSIX THOUSANDdSEVEN THOUSANDdEIGHT THOUSANDdNINE THOUSANDdTEN THOUSANDdTWENTY THOUSAND",
    "dTHIRTY THOUSANDdFORTY THOUSANDdFIFTY THOUSANDdSIXTY THOUSANDdSEVENTY THOUSAND",
    "dEIGHTY THOUSANDdNINETY THOUSANDdONE HUNDRED THOUSANDdTWO HUNDRED THOUSAND",
    "dTHREE HUNDRED THOUSANDdFOUR HUNDRED THOUSANDdFIVE HUNDRED THOUSANDdSIX HUNDRED THOUSAND",
    "dSEVEN HUNDRED THOUSANDdEIGHT HUNDRED THOUSANDdNINE HUNDRED THOUSANDcFRACTION ONE TWELFTH",
    "dTWO TWELFTHSdTHREE TWELFTHSdFOUR TWELFTHSdFIVE TWELFTHSdSIX TWELFTHSdSEVEN TWELFTHS",
    "dEIGHT TWELFTHSdNINE TWELFTHSdTEN TWELFTHS"]⟩,
  ⟨0x10A00, [
    "aKHAROSHTHI LETTER AbVOWEL SIGN IdUdVOCALIC R.dEdO.....cLENGTH MARKbSIGN DOUBLE RING BELOW",
    "cANUSVARAcVISARGAbLETTER KAcKHAcGAcGHA.cCAcCHAcJA.cNYAcTTAcTTHAcDDAcDDHAcNNAcTAcTHAcDAcDHA",
    "cNAcPAcPHAcBAcBHAcMAcYAcRAcLAcVAcSHAcSSAcSAcZAcHAcKKAcTTTHAcTTTAcVHA..bSIGN BAR ABOVEcCAUDA",
    "cDOT BELOW....bVIRAMAbDIGIT ONEcTWOcTHREEcFOURbNUMBER TENcTWENTYcONE HUNDREDdTHOUSAND",
    "bFRACTION ONE HALF.......bPUNCTUATION DOTcSMALL CIRCLEcCIRCLEcCRESCENT BARcMANGALAMcLOTUS",
    "cDANDAcDOUBLE DANDAcLINES.......aOLD SOUTH ARABIAN LETTER HEeLAMEDHeHETHeMEMeQOPHeWAWeSHIN",
    "eRESHeBETHeTAWeSATeKAPHeNUNeKHETHeSADHEeSAMEKHeFEeALEFeAYNeDHADHEeGIMELeDALETHeGHAYNeTETH",
    "eZAYNeDHALETHeYODHeTHAWeTHETHdNUMBER ONEeFIFTYdNUMERIC INDICATORbNORTH ARABIAN LETTER HEH",
    "eLAMeHAHeMEEMeQAFeWAWeES-2eREHeBEHeTEHeES-1eKAFeNOONeKHAHeSADeES-3eFEHeALEFeAINeDADeGEEM",
    "eDALeGHAINeTAHeZAINeTHALeYEHeTHEHeZAHdNUMBER ONEeTENeTWENTY"]⟩,
  ⟨0x10AC0, [
    "aMANICHAEAN LETTER ALEPHcBETHcBHETHcGIMELcGHIMELcDALETHcHEcWAWbSIGN UDbLETTER ZAYINcZHAYIN",
    "cJAYINcJHAYINcHETHcTETHcYODHcKAPHcXAPHcKHAPHcLAMEDHcDHAMEDHcTHAMEDHcMEMcNUNcSAMEKHcAYIN",
    "cAAYINcPEcFEcSADHEcQOPHcXOPHcQHOPHcRESHcSHINcSSHINcTAWbABBREVIATION MARK ABOVEdBELOW....",
    "bNUMBER ONEcFIVEcTENcTWENTYcONE HUNDREDbPUNCTUATION STARcFLEURONcDOUBLE DOT WITHIN DOT",
    "cDOT WITHIN DOTcDOTcTWO DOTScLINE FILLER"]⟩,
  ⟨0x10B00, [
    "aAVESTAN LETTER AcAAcAOcAAOcANcAANcAEcAEEcEcEEcOcOOcIcIIcUcUUcKEcXEcXYEcXVEcGEcGGEcGHEcCE",
    "cJEcTEcTHEcDEcDHEcTTEcPEcFEcBEcBHEcNGEcNGYEcNGVEcNEcNYEcNNEcMEcHMEcYYEcYEcVEcREcLEcSEcZE",
    "cSHEcZHEcSHYEcSSHEcHE...bABBREVIATION MARKaTINY TWO DOTS OVER ONE DOT PUNCTUATION",
    "aSMALL TWO DOTS OVER ONE DOT PUNCTUATIONaLARGE TWO DOTS OVER ONE DOT PUNCTUATION",
    "bONE DOT OVER TWO DOTS PUNCTUATIONbTWO RINGS OVER ONE RING PUNCTUATION",
    "bONE RING OVER TWO RINGS PUNCTUATIONaINSCRIPTIONAL PARTHIAN LETTER ALEPHdBETHdGIMELdDALETH",
    "dHEdWAWdZAYINdHETHdTETHdYODHdKAPHdLAMEDHdMEMdNUNdSAMEKHdAYINdPEdSADHEdQOPHdRESHdSHINdTAW..",
    "cNUMBER ONEdTWOdTHREEdFOURdTENdTWENTYdONE HUNDREDeTHOUSANDbPAHLAVI LETTER ALEPHdBETHdGIMEL",
    "dDALETHdHEdWAW-AYIN-RESHdZAYINdHETHdTETHdYODHdKAPHdLAMEDHdMEM-QOPHdNUNdSAMEKHdPEdSADHEdSHIN",
    "dTAW.....cNUMBER ONEdTWOdTHREEdFOURdTENdTWENTYdONE HUNDREDeTHOUSAND",
    "aPSALTER PAHLAVI LETTER ALEPHdBETHdGIMELdDALETHdHEdWAW-AYIN-RESHdZAYINdHETHdYODHdKAPH",
    "dLAMEDHdMEM-QOPHdNUNdSAMEKHdPEdSADHEdSHINdTAW.......cSECTION MARKcTURNED SECTION MARK",
    "cFOUR DOTS WITH CROSSfDOT............cNUMBER ONEdTWOdTHREEdFOURdTENdTWENTYdONE HUNDRED"]⟩,
  ⟨0x10C00, [
    "aOLD TURKIC LETTER ORKHON AdYENISEI AeAEdORKHON IdYENISEI IeEdORKHON OeOEdYENISEI OE",
    "dORKHON ABdYENISEI ABdORKHON AEBdYENISEI AEBdORKHON AGdYENISEI AGdORKHON AEGdYENISEI AEG",
    "dORKHON ADdYENISEI ADdORKHON AEDeEZdYENISEI EZdORKHON AYdYENISEI AYdORKHON AEYdYENISEI AEY",
    "dORKHON AEKdYENISEI AEKdORKHON OEKdYENISEI OEKdORKHON ALdYENISEI ALdORKHON AELeELTeEMeAN",
    "eAENdYENISEI AENdORKHON ENTdYENISEI ENTdORKHON ENCdYENISEI ENCdORKHON ENYdYENISEI ENYeANG",
    "dORKHON ENGdYENISEI AENGdORKHON EPeOPeICeECdYENISEI ECdORKHON AQdYENISEI AQdORKHON IQ",
    "dYENISEI IQdORKHON OQdYENISEI OQdORKHON ARdYENISEI ARdORKHON AEReASeAESeASHdYENISEI ASH",
    "dORKHON ESHdYENISEI ESHdORKHON ATdYENISEI ATdORKHON AETdYENISEI AETdORKHON OTeBASH"]⟩,
  ⟨0x10C80, [
    "aOLD HUNGARIAN CAPITAL LETTER AeAAeEBeAMBeECeENCeECSeEDeANDeEeCLOSE EeEEeEFeEGeEGYeEHeIeII",
    "eEJeEKeAKeUNKeELeELYeEMeENeENYeOeOOeNIKOLSBURG OEeRUDIMENTA OEeOEEeEPeEMPeEReSHORT EReES",
    "eESZeETeENTeETYeECHeUeUUeNIKOLSBURG UEeRUDIMENTA UEeEVeEZeEZSeENT-SHAPED SIGNeUS...........",
    "..cSMALL LETTER AeAAeEBeAMBeECeENCeECSeEDeANDeEeCLOSE EeEEeEFeEGeEGYeEHeIeIIeEJeEKeAKeUNK",
    "eELeELYeEMeENeENYeOeOOeNIKOLSBURG OEeRUDIMENTA OEeOEEeEPeEMPeEReSHORT EReESeESZeETeENTeETY",
    "eECHeUeUUeNIKOLSBURG UEeRUDIMENTA UEeEVeEZeEZSeENT-SHAPED SIGNeUS.......cNUMBER ONEdFIVE",
    "dTENdFIFTYdONE HUNDREDeTHOUSAND"]⟩,
  ⟨0x10D00, [
    "aHANIFI ROHINGYA LETTER AdBAdPAdTAdTTAdJAdCAdHAdKHAdFAdDAdDDAdRAdRRAdZAdSAdSHAdKAdGAdLAdMA",
    "dNAdWAdKINNA WAdYAdKINNA YAdNGAdNYAdVAcVOWEL AdIdUdEdOcMARK SAKINdNA KHONNAcSIGN HARBAHAY",
    "dTAHALAdTANAdTASSI........cDIGIT ZEROdONEdTWOdTHREEdFOURdFIVEdSIXdSEVENdEIGHTdNINE"]⟩,
  ⟨0x10E60, [
    "aRUMI DIGIT ONEcTWOcTHREEcFOURcFIVEcSIXcSEVENcEIGHTcNINEbNUMBER TENcTWENTYcTHIRTYcFORTY",
    "cFIFTYcSIXTYcSEVENTYcEIGHTYcNINETYcONE HUNDREDcTWO HUNDREDcTHREE HUNDREDcFOUR HUNDRED",
    "cFIVE HUNDREDcSIX HUNDREDcSEVEN HUNDREDcEIGHT HUNDREDcNINE HUNDREDbFRACTION ONE HALF",
    "dQUARTERdTHIRDcTWO THIRDS.aYEZIDI LETTER ELIFcBEcPEcPHEcTHEcSEcCIMcCHIMcCHHIMcHHAcXAcDAL",
    "cZALcRAcRHAcZAcJAcSINcSHINcSADcDADcTAcZEcEYNcXHEYNcFAcVAcVA ALTERNATE FORMcQAFcKAFcKHAFcGAF",
    "cLAMcMIMcNUNcUMcWAWcOWcEWcHAYcYOTcET.bCOMBINING HAMZA MARKcMADDA MARKbHYPHENATION MARK..",
    "bLETTER LAM WITH DOT ABOVEcYOT WITH CIRCUMFLEX ABOVE"]⟩,
  ⟨0x10F00, [
    "aOLD SOGDIAN LETTER ALEPHdFINAL ALEPHdBETHdFINAL BETHdGIMELdHEdFINAL HEdWAWdZAYINdHETHdYODH",
    "dKAPHdLAMEDHdMEMdNUNdFINAL NUNeNUN WITH VERTICAL TAILdSAMEKHdAYINdALTERNATE AYINdPEdSADHE",
    "dFINAL SADHEeSADHE WITH VERTICAL TAILdRESH-AYIN-DALETHdSHINdTAWdFINAL TAW",
    "eTAW WITH VERTICAL TAILcNUMBER ONEdTWOdTHREEdFOURdFIVEdTENdTWENTYdTHIRTYdONE HUNDRED",
    "cFRACTION ONE HALFcLIGATURE AYIN-DALETH........aSOGDIAN LETTER ALEPHcBETHcGIMELcHEcWAW",
    "cZAYINcHETHcYODHcKAPHcLAMEDHcMEMcNUNcSAMEKHcAYINcPEcSADHEcRESH-AYINcSHINcTAWcFETHcLESH",
    "bINDEPENDENT SHINbCOMBINING DOT BELOWcTWO DOTS BELOWcDOT ABOVEcTWO DOTS ABOVEcCURVE ABOVE",
    "dBELOWcHOOK ABOVEdBELOWcLONG HOOK BELOWcRESH BELOWcSTROKE BELOWbNUMBER ONEcTENcTWENTY",
    "cONE HUNDREDbPUNCTUATION TWO VERTICAL BARSeBARS WITH DOTScCIRCLE WITH DOT",
    "cTWO CIRCLES WITH DOTScHALF CIRCLE WITH DOT......................aOLD UYGHUR LETTER ALEPH",
    "dBETHdGIMEL-HETHdWAWdZAYINdFINAL HETHdYODHdKAPHdLAMEDHdMEMdNUNdSAMEKHdPEdSADHEdRESHdSHIN",
    "dTAWdLESHcCOMBINING DOT ABOVEeBELOWdTWO DOTS ABOVEfBELOWcPUNCTUATION BARdTWO BARSeDOTS",
    "dFOUR DOTS"]⟩,
  ⟨0x10FB0, [
    "aCHORASMIAN LETTER ALEPHcSMALL ALEPHcBETHcGIMELcDALETHcHEcWAWcCURLED WAWcZAYINcHETHcYODH",
    "cKAPHcLAMEDHcMEMcNUNcSAMEKHcAYINcPEcRESHcSHINcTAWbNUMBER ONEcTWOcTHREEcFOURcTENcTWENTY",
    "cONE HUNDRED....................aELYMAIC LETTER ALEPHcBETHcGIMELcDALETHcHEcWAWcZAYINcHETH",
    "cTETHcYODHcKAPHcLAMEDHcMEMcNUNcSAMEKHcAYINcPEcSADHEcQOPHcRESHcSHINcTAWbLIGATURE ZAYIN-YODH"]⟩,
  ⟨0x11000, [
    "aBRAHMI SIGN CANDRABINDUcANUSVARAcVISARGAcJIHVAMULIYAcUPADHMANIYAbLETTER AcAAcIcIIcUcUU",
    "cVOCALIC RdRRdLdLLcEcAIcOcAUcKAcKHAcGAcGHAcNGAcCAcCHAcJAcJHAcNYAcTTAcTTHAcDDAcDDHAcNNAcTA",
    "cTHAcDAcDHAcNAcPAcPHAcBAcBHAcMAcYAcRAcLAcVAcSHAcSSAcSAcHAcLLAcOLD TAMIL LLLAeRRAeNNNA",
    "bVOWEL SIGN AAdBHATTIPROLU AAdIdIIdUdUUdVOCALIC ReRReLeLLdEdAIdOdAUbVIRAMAbDANDA",
    "bDOUBLE DANDAbPUNCTUATION DOTcDOUBLE DOTcLINEcCRESCENT BARcLOTUS....bNUMBER ONEcTWOcTHREE",
    "cFOURcFIVEcSIXcSEVENcEIGHTcNINEcTENcTWENTYcTHIRTYcFORTYcFIFTYcSIXTYcSEVENTYcEIGHTYcNINETY",
    "cONE HUNDREDdTHOUSANDbDIGIT ZEROcONEcTWOcTHREEcFOURcFIVEcSIXcSEVENcEIGHTcNINE",
    "bSIGN OLD TAMIL VIRAMAbLETTER OLD TAMIL SHORT EfObVOWEL SIGN OLD TAMIL SHORT EgO",
    "bLETTER OLD TAMIL LLA.........bNUMBER JOINERaKAITHI SIGN CANDRABINDUcANUSVARAcVISARGA",
    "bLETTER AcAAcIcIIcUcUUcEcAIcOcAUcKAcKHAcGAcGHAcNGAcCAcCHAcJAcJHAcNYAcTTAcTTHAcDDAcDDDHA",
    "cDDHAcRHAcNNAcTAcTHAcDAcDHAcNAcPAcPHAcBAcBHAcMAcYAcRAcLAcVAcSHAcSSAcSAcHAbVOWEL SIGN AAdI",
    "dIIdUdUUdEdAIdOdAUbSIGN VIRAMAcNUKTAbABBREVIATION SIGNbENUMERATION SIGNbNUMBER SIGN",
    "bSECTION MARKbDOUBLE SECTION MARKbDANDAbDOUBLE DANDAbVOWEL SIGN VOCALIC R..........",
    "bNUMBER SIGN ABOVE..aSORA SOMPENG LETTER SAHdTAHdBAHdCAHdDAHdGAHdMAHdNGAHdLAHdNAHdVAHdPAH",
    "dYAHdRAHdHAHdKAHdJAHdNYAHdAHdEEHdIHdUHdOHdEHdMAE.......cDIGIT ZEROdONEdTWOdTHREEdFOURdFIVE",
    "dSIXdSEVENdEIGHTdNINE"]⟩,
  ⟨0x11100, [
    "aCHAKMA SIGN CANDRABINDUcANUSVARAcVISARGAbLETTER AAcIcUcEcKAAcKHAAcGAAcGHAAcNGAAcCAAcCHAA",
    "cJAAcJHAAcNYAAcTTAAcTTHAAcDDAAcDDHAAcNNAAcTAAcTHAAcDAAcDHAAcNAAcPAAcPHAAcBAAcBHAAcMAAcYYAA",
    "cYAAcRAAcLAAcWAAcSAAcHAAbVOWEL SIGN AdIdIIdUdUUdEdAIdOdAUdOIbO MARKbAU MARKbVIRAMAbMAAYYAA.",
    "bDIGIT ZEROcONEcTWOcTHREEcFOURcFIVEcSIXcSEVENcEIGHTcNINEbSECTION MARKbDANDAbDOUBLE DANDA",
    "bQUESTION MARKbLETTER LHAAbVOWEL SIGN AAdEIbLETTER VAA........aMAHAJANI LETTER AcIcUcEcOcKA",
    "cKHAcGAcGHAcCAcCHAcJAcJHAcNYAcTTAcTTHAcDDAcDDHAcNNAcTAcTHAcDAcDHAcNAcPAcPHAcBAcBHAcMAcRAcLA",
    "cVAcSAcHAcRRAbSIGN NUKTAbABBREVIATION SIGNbSECTION MARKbLIGATURE SHRI.........",
    "aSHARADA SIGN CANDRABINDUcANUSVARAcVISARGAbLETTER AcAAcIcIIcUcUUcVOCALIC RdRRdLdLLcEcAIcO",
    "cAUcKAcKHAcGAcGHAcNGAcCAcCHAcJAcJHAcNYAcTTAcTTHAcDDAcDDHAcNNAcTAcTHAcDAcDHAcNAcPAcPHAcBA",
    "cBHAcMAcYAcRAcLAcLLAcVAcSHAcSSAcSAcHAbVOWEL SIGN AAdIdIIdUdUUdVOCALIC ReRReLeLLdEdAIdOdAU",
    "bSIGN VIRAMAcAVAGRAHAcJIHVAMULIYAcUPADHMANIYAbOMbDANDAbDOUBLE DANDAbABBREVIATION SIGN",
    "bSEPARATORbSANDHI MARKbSIGN NUKTAbVOWEL MODIFIER MARKbEXTRA SHORT VOWEL MARKbSUTRA MARK",
    "bVOWEL SIGN PRISHTHAMATRA EbSIGN INVERTED CANDRABINDUbDIGIT ZEROcONEcTWOcTHREEcFOURcFIVE",
    "cSIXcSEVENcEIGHTcNINEbEKAMbSIGN SIDDHAMbHEADSTROKEbCONTINUATION SIGNbSECTION MARK-1d2.",
    "aSINHALA ARCHAIC DIGIT ONEdTWOdTHREEdFOURdFIVEdSIXdSEVENdEIGHTdNINEcNUMBER TENdTWENTY",
    "dTHIRTYdFORTYdFIFTYdSIXTYdSEVENTYdEIGHTYdNINETYdONE HUNDREDeTHOUSAND"]⟩,
  ⟨0x11200, [
    "aKHOJKI LETTER AcAAcIcUcEcAIcOcAUcKAcKHAcGAcGGAcGHAcNGAcCAcCHAcJAcJJA.cNYAcTTAcTTHAcDDA",
    "cDDHAcNNAcTAcTHAcDAcDDDAcDHAcNAcPAcPHAcBAcBBAcBHAcMAcYAcRAcLAcVAcSAcHAcLLAbVOWEL SIGN AAdI",
    "dIIdUdEdAIdOdAUbSIGN ANUSVARAcVIRAMAcNUKTAcSHADDAbDANDAbDOUBLE DANDAbWORD SEPARATOR",
    "bSECTION MARKbDOUBLE SECTION MARKbABBREVIATION SIGNbSIGN SUKUN"]⟩,
  ⟨0x11280, [
    "aMULTANI LETTER AcIcUcEcKAcKHAcGA.cGHA.cCAcCHAcJAcJJA.cNYAcTTAcTTHAcDDAcDDDAcDDHAcNNAcTA",
    "cTHAcDAcDHAcNAcPAcPHAcBA.cBHAcMAcYAcRAcLAcVAcSAcHAcRRAcRHAbSECTION MARK......",
    "aKHUDAWADI LETTER AcAAcIcIIcUcUUcEcAIcOcAUcKAcKHAcGAcGGAcGHAcNGAcCAcCHAcJAcJJAcJHAcNYAcTTA",
    "cTTHAcDDAcDDDAcRRAcDDHAcNNAcTAcTHAcDAcDHAcNAcPAcPHAcBAcBBAcBHAcMAcYAcRAcLAcVAcSHAcSAcHA",
    "bSIGN ANUSVARAbVOWEL SIGN AAdIdIIdUdUUdEdAIdOdAUbSIGN NUKTAcVIRAMA.....bDIGIT ZEROcONEcTWO",
    "cTHREEcFOURcFIVEcSIXcSEVENcEIGHTcNINE"]⟩,
  ⟨0x11300, [
    "aGRANTHA SIGN COMBINING ANUSVARA ABOVEcCANDRABINDUcANUSVARAcVISARGA.bLETTER AcAAcIcIIcUcUU",
    "cVOCALIC RdL..cEEcAI..cOOcAUcKAcKHAcGAcGHAcNGAcCAcCHAcJAcJHAcNYAcTTAcTTHAcDDAcDDHAcNNAcTA",
    "cTHAcDAcDHAcNA.cPAcPHAcBAcBHAcMAcYAcRA.cLAcLLA.cVAcSHAcSSAcSAcHA.aCOMBINING BINDU BELOW",
    "aGRANTHA SIGN NUKTAcAVAGRAHAbVOWEL SIGN AAdIdIIdUdUUdVOCALIC ReRR..dEEdAI..dOOdAU",
    "bSIGN VIRAMA..bOM......bAU LENGTH MARK.....bSIGN PLUTAbLETTER VEDIC ANUSVARA",
    "dDOUBLE ANUSVARAcVOCALIC RRdLLbVOWEL SIGN VOCALIC LeLL..aCOMBINING GRANTHA DIGIT ZEROdONE",
    "dTWOdTHREEdFOURdFIVEdSIX...cLETTER AdKAdNAdVIdPA"]⟩,
  ⟨0x11400, [
    "aNEWA LETTER AcAAcIcIIcUcUUcVOCALIC RdRRdLdLLcEcAIcOcAUcKAcKHAcGAcGHAcNGAcNGHAcCAcCHAcJA",
    "cJHAcNYAcNYHAcTTAcTTHAcDDAcDDHAcNNAcTAcTHAcDAcDHAcNAcNHAcPAcPHAcBAcBHAcMAcMHAcYAcRAcRHAcLA",
    "cLHAcWAcSHAcSSAcSAcHAbVOWEL SIGN AAdIdIIdUdUUdVOCALIC ReRReLeLLdEdAIdOdAUbSIGN VIRAMA",
    "cCANDRABINDUcANUSVARAcVISARGAcNUKTAcAVAGRAHAcFINAL ANUSVARAbOMbSIDDHIbDANDAbDOUBLE DANDA",
    "bCOMMAbGAP FILLERbABBREVIATION SIGNbDIGIT ZEROcONEcTWOcTHREEcFOURcFIVEcSIXcSEVENcEIGHTcNINE",
    "bDOUBLE COMMAbPLACEHOLDER MARK.bINSERTION SIGNbSANDHI MARKbLETTER VEDIC ANUSVARA",
    "bSIGN JIHVAMULIYAcUPADHMANIYA"]⟩,
  ⟨0x11480, [
    "aTIRHUTA ANJIbLETTER AcAAcIcIIcUcUUcVOCALIC RdRRdLdLLcEcAIcOcAUcKAcKHAcGAcGHAcNGAcCAcCHAcJA",
    "cJHAcNYAcTTAcTTHAcDDAcDDHAcNNAcTAcTHAcDAcDHAcNAcPAcPHAcBAcBHAcMAcYAcRAcLAcVAcSHAcSSAcSAcHA",
    "bVOWEL SIGN AAdIdIIdUdUUdVOCALIC ReRReLeLLdEdSHORT EdAIdOdSHORT OdAUbSIGN CANDRABINDU",
    "cANUSVARAcVISARGAcVIRAMAcNUKTAcAVAGRAHAbGVANGbABBREVIATION SIGNbOM........bDIGIT ZEROcONE",
    "cTWOcTHREEcFOURcFIVEcSIXcSEVENcEIGHTcNINE"]⟩,
  ⟨0x11580, [
    "aSIDDHAM LETTER AcAAcIcIIcUcUUcVOCALIC RdRRdLdLLcEcAIcOcAUcKAcKHAcGAcGHAcNGAcCAcCHAcJAcJHA",
    "cNYAcTTAcTTHAcDDAcDDHAcNNAcTAcTHAcDAcDHAcNAcPAcPHAcBAcBHAcMAcYAcRAcLAcVAcSHAcSSAcSAcHA",
    "bVOWEL SIGN AAdIdIIdUdUUdVOCALIC ReRR..dEdAIdOdAUbSIGN CANDRABINDUcANUSVARAcVISARGAcVIRAMA",
    "cNUKTAcSIDDHAMbDANDAbDOUBLE DANDAbSEPARATOR DOTcBARbREPETITION MARK-1d2d3bEND OF TEXT MARK",
    "bSECTION MARK WITH TRIDENT AND U-SHAPED ORNAMENTSgDOTTED CRESCENTS",
    "eRAYS AND DOTTED CRESCENTShDOUBLE CRESCENTShTRIPLE CRESCENTSdDOUBLE RINGeRING WITH RAYS",
    "dWITH DOUBLE CRESCENTSeTRIPLE CRESCENTSeQUADRUPLE CRESCENTSeSEPTUPLE CRESCENTS",
    "eCIRCLES AND RAYSgTWO ENCLOSURESgFOUR ENCLOSURESbLETTER THREE-CIRCLE ALTERNATE I",
    "cTWO-CIRCLE ALTERNATE IfIIcALTERNATE UbVOWEL SIGN ALTERNATE UeUU"]⟩,
  ⟨0x11600, [
    "aMODI LETTER AcAAcIcIIcUcUUcVOCALIC RdRRdLdLLcEcAIcOcAUcKAcKHAcGAcGHAcNGAcCAcCHAcJAcJHAcNYA",
    "cTTAcTTHAcDDAcDDHAcNNAcTAcTHAcDAcDHAcNAcPAcPHAcBAcBHAcMAcYAcRAcLAcVAcSHAcSSAcSAcHAcLLA",
    "bVOWEL SIGN AAdIdIIdUdUUdVOCALIC ReRReLeLLdEdAIdOdAUbSIGN ANUSVARAcVISARGAcVIRAMA",
    "cARDHACANDRAbDANDAbDOUBLE DANDAbABBREVIATION SIGNbSIGN HUVA...........bDIGIT ZEROcONEcTWO",
    "cTHREEcFOURcFIVEcSIXcSEVENcEIGHTcNINE......aMONGOLIAN BIRGA WITH ORNAMENTbROTATED BIRGA",
    "bDOUBLE BIRGA WITH ORNAMENTbTRIPLE BIRGA WITH ORNAMENTbBIRGA WITH DOUBLE ORNAMENT",
    "bROTATED BIRGA WITH ORNAMENTeDOUBLE ORNAMENTbINVERTED BIRGAcBIRGA WITH DOUBLE ORNAMENT",
    "bSWIRL BIRGAcBIRGA WITH ORNAMENTeDOUBLE ORNAMENTbTURNED SWIRL BIRGA WITH DOUBLE ORNAMENT...",
    "................aTAKRI LETTER AcAAcIcIIcUcUUcEcAIcOcAUcKAcKHAcGAcGHAcNGAcCAcCHAcJAcJHAcNYA",
    "cTTAcTTHAcDDAcDDHAcNNAcTAcTHAcDAcDHAcNAcPAcPHAcBAcBHAcMAcYAcRAcLAcVAcSHAcSAcHAcRRA",
    "bSIGN ANUSVARAcVISARGAbVOWEL SIGN AAdIdIIdUdUUdEdAIdOdAUbSIGN VIRAMAcNUKTA",
    "bLETTER ARCHAIC KHAbABBREVIATION SIGN......bDIGIT ZEROcONEcTWOcTHREEcFOURcFIVEcSIXcSEVEN",
    "cEIGHTcNINE"]⟩,
  ⟨0x11700, [
    "aAHOM LETTER KAcKHAcNGAcNAcTAcALTERNATE TAcPAcPHAcBAcMAcJAcCHAcTHAcRAcLAcSAcNYAcHAcAcDAcDHA",
    "cGAcALTERNATE GAcGHAcBHAcJHAcALTERNATE BA..bCONSONANT SIGN MEDIAL LAeRAeLIGATING RA",
    "bVOWEL SIGN AdAAdIdIIdUdUUdEdAWdOdAIdAMbSIGN KILLER....bDIGIT ZEROcONEcTWOcTHREEcFOURcFIVE",
    "cSIXcSEVENcEIGHTcNINEbNUMBER TENcTWENTYbSIGN SMALL SECTIONcSECTIONcRULAIbSYMBOL VI",
    "bLETTER CAcTTAcTTHAcDDAcDDHAcNNAcLLA"]⟩,
  ⟨0x11800, [
    "aDOGRA LETTER AcAAcIcIIcUcUUcEcAIcOcAUcKAcKHAcGAcGHAcNGAcCAcCHAcJAcJHAcNYAcTTAcTTHAcDDA",
    "cDDHAcNNAcTAcTHAcDAcDHAcNAcPAcPHAcBAcBHAcMAcYAcRAcLAcVAcSHAcSSAcSAcHAcRRAbVOWEL SIGN AAdI",
    "dIIdUdUUdVOCALIC ReRRdEdAIdOdAUbSIGN ANUSVARAcVISARGAcVIRAMAcNUKTAbABBREVIATION SIGN"]⟩,
  ⟨0x118A0, [
    "aWARANG CITI CAPITAL LETTER NGAAeAeWIeYUeYAeYOeIIeUUeEeOeANGeGAeKOeENYeYUJeUCeENNeODDeTTE",
    "eNUNGeDAeATeAMeBUePUeHIYOeHOLOeHORReHAReSSUUeSIIeVIYOcSMALL LETTER NGAAeAeWIeYUeYAeYOeIIeUU",
    "eEeOeANGeGAeKOeENYeYUJeUCeENNeODDeTTEeNUNGeDAeATeAMeBUePUeHIYOeHOLOeHORReHAReSSUUeSIIeVIYO",
    "cDIGIT ZEROdONEdTWOdTHREEdFOURdFIVEdSIXdSEVENdEIGHTdNINEcNUMBER TENdTWENTYdTHIRTYdFORTY",
    "dFIFTYdSIXTYdSEVENTYdEIGHTYdNINETY............cOM"]⟩,
  ⟨0x11900, [
    "aDIVES AKURU LETTER AdAAdIdIIdUdUUdE..dO..dKAdKHAdGAdGHAdNGAdCAdCHAdJA.dNYAdTTA.dDDAdDDHA",
    "dNNAdTAdTHAdDAdDHAdNAdPAdPHAdBAdBHAdMAdYAdYYAdRAdLAdVAdSHAdSSAdSAdHAdLLAdZAcVOWEL SIGN AAeI",
    "eIIeUeUUeE.eAIeO..cSIGN ANUSVARAdCANDRABINDUdHALANTAcVIRAMAcPREFIXED NASAL SIGNcMEDIAL YA",
    "cINITIAL RAcMEDIAL RAcSIGN NUKTAcDOUBLE DANDAcGAP FILLERcEND OF TEXT MARK.........",
    "cDIGIT ZEROdONEdTWOdTHREEdFOURdFIVEdSIXdSEVENdEIGHTdNINE"]⟩,
  ⟨0x119A0, [
    "aNANDINAGARI LETTER AcAAcIcIIcUcUUcVOCALIC RdRR..cEcAIcOcAUcKAcKHAcGAcGHAcNGAcCAcCHAcJAcJHA",
    "cNYAcTTAcTTHAcDDAcDDHAcNNAcTAcTHAcDAcDHAcNAcPAcPHAcBAcBHAcMAcYAcRAcLAcVAcSHAcSSAcSAcHAcLLA",
    "cRRAbVOWEL SIGN AAdIdIIdUdUUdVOCALIC ReRR..dEdAIdOdAUbSIGN ANUSVARAcVISARGAcVIRAMAcAVAGRAHA",
    "cSIDDHAMbHEADSTROKEbVOWEL SIGN PRISHTHAMATRA E"]⟩,
  ⟨0x11A00, [
    "aZANABAZAR SQUARE LETTER AcVOWEL SIGN IeUEeUeEeOEeOeAIeAUeREVERSED IdLENGTH MARKcLETTER KA",
    "dKHAdGAdGHAdNGAdCAdCHAdJAdNYAdTTAdTTHAdDDAdDDHAdNNAdTAdTHAdDAdDHAdNAdPAdPHAdBAdBHAdMAdTSA",
    "dTSHAdDZAdDZHAdZHAdZAd-AdYAdRAdLAdVAdSHAdSSAdSAdHAdKSSAcFINAL CONSONANT MARKcSIGN VIRAMA",
    "dCANDRABINDUdCANDRABINDU WITH ORNAMENTdCANDRA WITH ORNAMENTdANUSVARAdVISARGA",
    "cCLUSTER-INITIAL LETTER RAdFINAL LETTER YAfRAfLAfVAcINITIAL HEAD MARKcCLOSING HEAD MARK",
    "cMARK TSHEGdSHADdDOUBLE SHADdLONG TSHEGcINITIAL DOUBLE-LINED HEAD MARK",
    "cCLOSING DOUBLE-LINED HEAD MARKcSUBJOINER........aSOYOMBO LETTER AbVOWEL SIGN IdUEdUdEdOdOE",
    "dAIdAUdVOCALIC ReLcLENGTH MARKbLETTER KAcKHAcGAcGHAcNGAcCAcCHAcJAcJHAcNYAcTTAcTTHAcDDAcDDHA",
    "cNNAcTAcTHAcDAcDHAcNAcPAcPHAcBAcBHAcMAcTSAcTSHAcDZAcZHAcZAc-AcYAcRAcLAcVAcSHAcSSAcSAcHA",
    "cKSSAbSIGN JIHVAMULIYAcUPADHMANIYAbCLUSTER-INITIAL LETTER RAeLAeSHAeSA",
    "bFINAL CONSONANT SIGN GeKeNGeDeNeBeMeReLeSHeSe-AbSIGN ANUSVARAcVISARGAbGEMINATION MARK",
    "bSUBJOINERbMARK TSHEGcSHADcDOUBLE SHADcPLUTAbHEAD MARK WITH MOON AND SUN AND TRIPLE FLAME",
    "iFLAMEgSUNbTERMINAL MARK-1d2.............aCANADIAN SYLLABICS NATTILIK HIdHIIdHOdHOOdHAdHAA",
    "dSHRIdSHRIIdSHROdSHROOdSHRAdSHRAAcSPEcSPIcSPOcSPAaPAU CIN HAU LETTER PAeKAeLAeMAeDAeZAeVA",
    "eNGAeHAeGAeKHAeSAeBAeCAeTAeTHAeNAePHAeRAeFAeCHAeAeEeIeOeUeUAeIAeFINAL PfKfTfMfNfLfWfNGfY",
    "dRISING TONE LONGeTONEdSANDHI GLOTTAL STOPdRISING TONE LONG FINALfFINAL",
    "dSANDHI GLOTTAL STOP FINALeTONE LONGeTONEeTONE LONG FINALfFINALdMID-LEVEL TONE",
    "dGLOTTAL STOP VARIANTdMID-LEVEL TONE LONG FINALgFINALdLOW-FALLING TONE LONGfTONE",
    "dGLOTTAL STOPdLOW-FALLING TONE LONG FINALgFINALdGLOTTAL STOP FINAL"]⟩,
  ⟨0x11C00, [
    "aBHAIKSUKI LETTER AcAAcIcIIcUcUUcVOCALIC RdRRdL.cEcAIcOcAUcKAcKHAcGAcGHAcNGAcCAcCHAcJAcJHA",
    "cNYAcTTAcTTHAcDDAcDDHAcNNAcTAcTHAcDAcDHAcNAcPAcPHAcBAcBHAcMAcYAcRAcLAcVAcSHAcSSAcSAcHA",
    "bVOWEL SIGN AAdIdIIdUdUUdVOCALIC ReRReL.dEdAIdOdAUbSIGN CANDRABINDUcANUSVARAcVISARGAcVIRAMA",
    "cAVAGRAHAbDANDAbDOUBLE DANDAbWORD SEPARATORbGAP FILLER-1d2..........bDIGIT ZEROcONEcTWO",
    "cTHREEcFOURcFIVEcSIXcSEVENcEIGHTcNINEbNUMBER ONEcTWOcTHREEcFOURcFIVEcSIXcSEVENcEIGHTcNINE",
    "cTENcTWENTYcTHIRTYcFORTYcFIFTYcSIXTYcSEVENTYcEIGHTYcNINETYbHUNDREDS UNIT MARK...",
    "aMARCHEN HEAD MARKbMARK SHADbLETTER KAcKHAcGAcNGAcCAcCHAcJAcNYAcTAcTHAcDAcNAcPAcPHAcBAcMA",
    "cTSAcTSHAcDZAcWAcZHAcZAc-AcYAcRAcLAcSHAcSAcHAcA..bSUBJOINED LETTER KAdKHAdGAdNGAdCAdCHAdJA",
    "dNYAdTAdTHAdDAdNAdPAdPHAdBAdMAdTSAdTSHAdDZAdWAdZHAdZA.dYAdRAdLAdSHAdSAdHAdAbVOWEL SIGN AAdI",
    "dUdEdObSIGN ANUSVARAcCANDRABINDU"]⟩,
  ⟨0x11D00, [
    "aMASARAM GONDI LETTER AdAAdIdIIdUdUUdE.dAIdO.dAUdKAdKHAdGAdGHAdNGAdCAdCHAdJAdJHAdNYAdTTA",
    "dTTHAdDDAdDDHAdNNAdTAdTHAdDAdDHAdNAdPAdPHAdBAdBHAdMAdYAdRAdLAdVAdSHAdSSAdSAdHAdLLAdKSSA",
    "dJNYAdTRAcVOWEL SIGN AAeIeIIeUeUUeVOCALIC R...eE.eAIeO.eAUcSIGN ANUSVARAdVISARGAdNUKTA",
    "dCANDRAdHALANTAcVIRAMAcREPHAcRA-KARA........cDIGIT ZEROdONEdTWOdTHREEdFOURdFIVEdSIXdSEVEN",
    "dEIGHTdNINE......aGUNJALA GONDI LETTER AdAAdIdIIdUdUU.dEEdAI.dOOdAUdYAdVAdBAdBHAdMAdKAdKHA",
    "dTAdTHAdLAdGAdGHAdDAdDHAdNAdCAdCHAdTTAdTTHAdLLAdJAdJHAdDDAdDDHAdNGAdPAdPHAdHAdRAdSA",
    "cVOWEL SIGN AAeIeIIeUeUU.eEEeAI.eOOeAUcSIGN ANUSVARAdVISARGAcVIRAMAcOM.......cDIGIT ZERO",
    "dONEdTWOdTHREEdFOURdFIVEdSIXdSEVENdEIGHTdNINE"]⟩,
  ⟨0x11EE0, [
    "aMAKASAR LETTER KAcGAcNGAcPAcBAcMAcTAcDAcNAcCAcJAcNYAcYAcRAcLAcVAcSAcAbANGKAbVOWEL SIGN IdU",
    "dEdObPASSIMBANGbEND OF SECTION"]⟩,
  ⟨0x11FB0, [
    "aLISU LETTER YHA...............aTAMIL FRACTION ONE THREE-HUNDRED-AND-TWENTIETH",
    "dONE-HUNDRED-AND-SIXTIETHdEIGHTIETHdSIXTY-FOURTHdFORTIETHdTHIRTY-SECONDcTHREE EIGHTIETHS",
    "dSIXTY-FOURTHScONE TWENTIETHdSIXTEENTH-1e2dTENTHdEIGHTHcTHREE TWENTIETHSdSIXTEENTHS",
    "cONE FIFTHdQUARTERdHALF-1e2cTHREE QUARTERScDOWNSCALING FACTOR KIIZHbSIGN NELcCEVITU",
    "cAAZHAAKKUcUZHAKKUcMUUVUZHAKKUcKURUNIcPATHAKKUcMUKKURUNIcKAACUcPANAMcPONcVARAAKANcPAARAM",
    "cKUZHIcVELIbWET CULTIVATION SIGNbDRY CULTIVATION SIGNbLAND SIGNbSALT PAN SIGN",
    "bTRADITIONAL CREDIT SIGNcNUMBER SIGNbCURRENT SIGNbAND ODD SIGNbSPENT SIGNbTOTAL SIGN",
    "bIN POSSESSION SIGNbSTARTING FROM SIGNbSIGN MUTHALIYAcVAKAIYARAA.............",
    "bPUNCTUATION END OF TEXT"]⟩]

end LogHarvest.Text.Table
