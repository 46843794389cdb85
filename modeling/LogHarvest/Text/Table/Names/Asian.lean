import LogHarvest.Text.Table.NameRun

/-!
# Names: the scripts of the Near East and of South and Southeast Asia
-/

namespace LogHarvest.Text.Table

def asianNames : List NameRun := [
  ⟨0x600, [
    "aARABIC NUMBER SIGNbSIGN SANAHbFOOTNOTE MARKERbSIGN SAFHAcSAMVATbNUMBER MARK ABOVE",
    "aARABIC-INDIC CUBE ROOTcFOURTH ROOTaARABIC RAYaARABIC-INDIC PER MILLE SIGN",
    "dTEN THOUSAND SIGNaAFGHANI SIGNaARABIC COMMAbDATE SEPARATORbPOETIC VERSE SIGNbSIGN MISRA",
    "cSALLALLAHOU ALAYHE WASSALLAMcALAYHE ASSALLAMcRAHMATULLAH ALAYHEcRADI ALLAHOU ANHU",
    "cTAKHALLUSbSMALL HIGH TAHdLIGATURE ALEF WITH LAM WITH YEHdZAINcFATHAcDAMMAcKASRAbSEMICOLON",
    "bLETTER MARKbEND OF TEXT MARKbTRIPLE DOT PUNCTUATION MARKbQUESTION MARKbLETTER KASHMIRI YEH",
    "cHAMZAcALEF WITH MADDA ABOVEeHAMZA ABOVEcWAW WITH HAMZA ABOVEcALEF WITH HAMZA BELOW",
    "cYEH WITH HAMZA ABOVEcALEFcBEHcTEH MARBUTAcTEHcTHEHcJEEMcHAHcKHAHcDALcTHALcREHcZAINcSEEN",
    "cSHEENcSADcDADcTAHcZAHcAINcGHAINcKEHEH WITH TWO DOTS ABOVEeTHREE DOTS BELOW",
    "cFARSI YEH WITH INVERTED VfTWO DOTS ABOVEfTHREE DOTS ABOVEbTATWEELbLETTER FEHcQAFcKAFcLAM",
    "cMEEMcNOONcHEHcWAWcALEF MAKSURAcYEHbFATHATANbDAMMATANbKASRATANbFATHAbDAMMAbKASRAbSHADDA",
    "bSUKUNbMADDAH ABOVEbHAMZA ABOVEcBELOWbSUBSCRIPT ALEFbINVERTED DAMMAbMARK NOON GHUNNA",
    "bZWARAKAYbVOWEL SIGN SMALL V ABOVEdINVERTED SMALL V ABOVEdDOT BELOWbREVERSED DAMMA",
    "bFATHA WITH TWO DOTSbWAVY HAMZA BELOWaARABIC-INDIC DIGIT ZEROdONEdTWOdTHREEdFOURdFIVEdSIX",
    "dSEVENdEIGHTdNINEaARABIC PERCENT SIGNbDECIMAL SEPARATORbTHOUSANDS SEPARATOR",
    "bFIVE POINTED STARbLETTER DOTLESS BEHdQAFcSUPERSCRIPT ALEFcALEF WASLAdWITH WAVY HAMZA ABOVE",
    "gBELOWcHIGH HAMZAdHAMZA ALEFeWAWcU WITH HAMZA ABOVEcHIGH HAMZA YEHcTTEHcTTEHEHcBEEH",
    "cTEH WITH RINGeTHREE DOTS ABOVE DOWNWARDScPEHcTEHEHcBEHEHcHAH WITH HAMZA ABOVE",
    "eTWO DOTS VERTICAL ABOVEcNYEHcDYEHcHAH WITH THREE DOTS ABOVEcTCHEHcTCHEHEHcDDAL",
    "cDAL WITH RINGeDOT BELOWfBELOW AND SMALL TAHcDAHALcDDAHALcDUL",
    "cDAL WITH THREE DOTS ABOVE DOWNWARDSeFOUR DOTS ABOVEcRREHcREH WITH SMALL VeRINGeDOT BELOW",
    "eSMALL V BELOWeDOT BELOW AND DOT ABOVEeTWO DOTS ABOVEcJEHcREH WITH FOUR DOTS ABOVE",
    "cSEEN WITH DOT BELOW AND DOT ABOVEeTHREE DOTS BELOWgBELOW AND THREE DOTS ABOVE",
    "cSAD WITH TWO DOTS BELOWeTHREE DOTS ABOVEcTAH WITH THREE DOTS ABOVE",
    "cAIN WITH THREE DOTS ABOVEcDOTLESS FEHcFEH WITH DOT MOVED BELOWfBELOWcVEH",
    "cFEH WITH THREE DOTS BELOWcPEHEHcQAF WITH DOT ABOVEeTHREE DOTS ABOVEcKEHEHcSWASH KAF",
    "cKAF WITH RINGeDOT ABOVEcNGcKAF WITH THREE DOTS BELOWcGAFcGAF WITH RINGcNGOEH",
    "cGAF WITH TWO DOTS BELOWcGUEHcGAF WITH THREE DOTS ABOVEcLAM WITH SMALL VeDOT ABOVE",
    "eTHREE DOTS ABOVEgBELOWcNOON WITH DOT BELOWdGHUNNAcRNOONcNOON WITH RINGeTHREE DOTS ABOVE",
    "cHEH DOACHASHMEEcTCHEH WITH DOT ABOVEcHEH WITH YEH ABOVEdGOALdGOAL WITH HAMZA ABOVE",
    "cTEH MARBUTA GOALcWAW WITH RINGcKIRGHIZ OEcOEcUcYUcKIRGHIZ YUcWAW WITH TWO DOTS ABOVEcVE",
    "cFARSI YEHcYEH WITH TAILeSMALL VcWAW WITH DOT ABOVEcEcYEH WITH THREE DOTS BELOWdBARREE",
    "dBARREE WITH HAMZA ABOVEbFULL STOPbLETTER AE",
    "bSMALL HIGH LIGATURE SAD WITH LAM WITH ALEF MAKSURAeQAF WITH LAM WITH ALEF MAKSURA",
    "dMEEM INITIAL FORMdLAM ALEFdJEEMdTHREE DOTSdSEENbEND OF AYAHbSTART OF RUB EL HIZB",
    "bSMALL HIGH ROUNDED ZEROdUPRIGHT RECTANGULAR ZEROdDOTLESS HEAD OF KHAHdMEEM ISOLATED FORM",
    "cLOW SEENcHIGH MADDAcWAWcYEHcHIGH YEHdNOONbPLACE OF SAJDAHbEMPTY CENTRE LOW STOPdHIGH STOP",
    "bROUNDED HIGH STOP WITH FILLED CENTREbSMALL LOW MEEMbLETTER DAL WITH INVERTED V",
    "cREH WITH INVERTED VaEXTENDED ARABIC-INDIC DIGIT ZEROeONEeTWOeTHREEeFOUReFIVEeSIXeSEVEN",
    "eEIGHTeNINEaARABIC LETTER SHEEN WITH DOT BELOWcDAD WITH DOT BELOWcGHAIN WITH DOT BELOW",
    "bSIGN SINDHI AMPERSANDdPOSTPOSITION MENbLETTER HEH WITH INVERTED V"]⟩,
  ⟨0x700, [
    "aSYRIAC END OF PARAGRAPHbSUPRALINEAR FULL STOPbSUBLINEAR FULL STOPbSUPRALINEAR COLON",
    "bSUBLINEAR COLONbHORIZONTAL COLONbCOLON SKEWED LEFTdRIGHTbSUPRALINEAR COLON SKEWED LEFT",
    "bSUBLINEAR COLON SKEWED RIGHTbCONTRACTIONbHARKLEAN OBELUScMETOBELUScASTERISCUS.",
    "bABBREVIATION MARKbLETTER ALAPHcSUPERSCRIPT ALAPHcBETHcGAMALcGAMAL GARSHUNIcDALATH",
    "cDOTLESS DALATH RISHcHEcWAWcZAINcHETHcTETHcTETH GARSHUNIcYUDHcYUDH HEcKAPHcLAMADHcMIMcNUN",
    "cSEMKATHcFINAL SEMKATHcEcPEcREVERSED PEcSADHEcQAPHcRISHcSHINcTAWcPERSIAN BHETHdGHAMAL",
    "dDHALATHbPTHAHA ABOVEcBELOWcDOTTEDbZQAPHA ABOVEcBELOWcDOTTEDbRBASA ABOVEcBELOW",
    "bDOTTED ZLAMA HORIZONTALdANGULARbHBASA ABOVEcBELOWbHBASA-ESASA DOTTEDbESASA ABOVEcBELOW",
    "bRWAHAbFEMININE DOTbQUSHSHAYAbRUKKAKHAbTWO VERTICAL DOTS ABOVEeBELOWbTHREE DOTS ABOVEdBELOW",
    "bOBLIQUE LINE ABOVEdBELOWbMUSICbBARREKH..bLETTER SOGDIAN ZHAINdKHAPHdFE",
    "aARABIC LETTER BEH WITH THREE DOTS HORIZONTALLY BELOWeDOT BELOW AND THREE DOTS ABOVE",
    "eTHREE DOTS POINTING UPWARDS BELOWiBELOW AND TWO DOTS ABOVEeTWO DOTS BELOW AND DOT ABOVE",
    "eINVERTED SMALL V BELOWeSMALL VcHAH WITH TWO DOTS ABOVEeTHREE DOTS POINTING UPWARDS BELOW",
    "cDAL WITH TWO DOTS VERTICALLY BELOW AND SMALL TAHeINVERTED SMALL V BELOWcREH WITH STROKE",
    "cSEEN WITH FOUR DOTS ABOVEcAIN WITH TWO DOTS ABOVEeTHREE DOTS POINTING DOWNWARDS ABOVE",
    "eTWO DOTS VERTICALLY ABOVEcFEH WITH TWO DOTS BELOWeTHREE DOTS POINTING UPWARDS BELOW",
    "cKEHEH WITH DOT ABOVEeTHREE DOTS ABOVEgPOINTING UPWARDS BELOWcMEEM WITH DOT ABOVEfBELOW",
    "cNOON WITH TWO DOTS BELOWeSMALL TAHfVcLAM WITH BARcREH WITH TWO DOTS VERTICALLY ABOVE",
    "eHAMZA ABOVEcSEEN WITH TWO DOTS VERTICALLY ABOVEcHAH WITH SMALL ARABIC LETTER TAH BELOW",
    "iAND TWO DOTScSEEN WITH SMALL ARABIC LETTER TAH AND TWO DOTS",
    "cREH WITH SMALL ARABIC LETTER TAH AND TWO DOTScHAH WITH SMALL ARABIC LETTER TAH ABOVE",
    "cALEF WITH EXTENDED ARABIC-INDIC DIGIT TWO ABOVEiTHREE ABOVE",
    "cFARSI YEH WITH EXTENDED ARABIC-INDIC DIGIT TWO ABOVEjTHREE ABOVEjFOUR BELOW",
    "cWAW WITH EXTENDED ARABIC-INDIC DIGIT TWO ABOVEiTHREE ABOVE",
    "cYEH BARREE WITH EXTENDED ARABIC-INDIC DIGIT TWO ABOVEjTHREE ABOVE",
    "cHAH WITH EXTENDED ARABIC-INDIC DIGIT FOUR BELOW",
    "cSEEN WITH EXTENDED ARABIC-INDIC DIGIT FOUR ABOVEeINVERTED VcKAF WITH TWO DOTS ABOVE",
    "aTHAANA LETTER HAAcSHAVIYANIcNOONUcRAAcBAAcLHAVIYANIcKAAFUcALIFUcVAAVUcMEEMUcFAAFUcDHAALU",
    "cTHAAcLAAMUcGAAFUcGNAVIYANIcSEENUcDAVIYANIcZAVIYANIcTAVIYANIcYAAcPAVIYANIcJAVIYANI",
    "cCHAVIYANIcTTAAcHHAAcKHAAcTHAALUcZAAcSHEENUcSAADHUcDAADHUcTOcZOcAINUcGHAINUcQAAFUcWAAVU",
    "bABAFILIbAABAAFILIbIBIFILIbEEBEEFILIbUBUFILIbOOBOOFILIbEBEFILIbEYBEYFILIbOBOFILIbOABOAFILI",
    "bSUKUNbLETTER NAA..............aNKO DIGIT ZEROcONEcTWOcTHREEcFOURcFIVEcSIXcSEVENcEIGHTcNINE",
    "bLETTER AcEEcIcEcUcOOcOcDAGBASINNAcNcBAcPAcTAcJAcCHAcDAcRAcRRAcSAcGBAcFAcKAcLAcNA WOLOSOcMA",
    "cNYAcNAcHAcWAcYAcNYA WOLOSOcJONA JAdCHAdRAbCOMBINING SHORT HIGH TONEdLOW TONEdRISING TONE",
    "cLONG DESCENDING TONEdHIGH TONEdLOW TONEdRISING TONEcNASALIZATION MARKcDOUBLE DOT ABOVE",
    "bHIGH TONE APOSTROPHEbLOW TONE APOSTROPHEbSYMBOL OO DENNENcGBAKURUNENbCOMMA",
    "bEXCLAMATION MARKbLAJANYALAN..bDANTAYALANbDOROME SIGNbTAMAN SIGN"]⟩,
  ⟨0x800, [
    "aSAMARITAN LETTER ALAFcBITcGAMANcDALATcIYcBAAcZENcITcTITcYUTcKAAFcLABATcMIMcNUNcSINGAATcIN",
    "cFIcTSAADIYcQUFcRISHcSHANcTAAFbMARK INcIN-ALAFcOCCLUSIONcDAGESH",
    "bMODIFIER LETTER EPENTHETIC YUTbMARK EPENTHETIC YUTbVOWEL SIGN LONG EdEdOVERLONG AAdLONG AA",
    "dAAdOVERLONG AdLONG AdAbMODIFIER LETTER SHORT AbVOWEL SIGN SHORT AdLONG UdU",
    "bMODIFIER LETTER IbVOWEL SIGN LONG IdIdOdSUKUNbMARK NEQUDAA..bPUNCTUATION NEQUDAAcAFSAAQ",
    "cANGEDcBAUcATMAAUcSHIYYAALAAbABBREVIATION MARKbPUNCTUATION MELODIC QITSAcZIQAAcQITSAcZAEF",
    "cTURUcARKAANUcSOF MASHFAATcANNAAU.aMANDAIC LETTER HALQAcABcAGcADcAHcUSHENNAcAZcITcATTcAKSA",
    "cAKcALcAMcANcAScINcAPcASZcAQcARcASHcATcDUSHENNAcKADcAINbAFFRICATION MARKbVOCALIZATION MARK",
    "bGEMINATION MARK..bPUNCTUATION.aSYRIAC LETTER MALAYALAM NGAdJAdNYAdTTAdNNAdNNNAdBHAdRAdLLA",
    "dLLLAdSSA.....aARABIC LETTER ALEF WITH ATTACHED FATHAfTOP RIGHT FATHAeRIGHT MIDDLE STROKE",
    "eLEFT MIDDLE STROKEeATTACHED KASRAfBOTTOM RIGHT KASRAfROUND DOT ABOVEfRIGHT ROUND DOT",
    "fLEFT ROUND DOTfROUND DOT BELOWeDOT ABOVEeATTACHED TOP RIGHT FATHA AND DOT ABOVE",
    "eRIGHT MIDDLE STROKE AND DOT ABOVEeATTACHED BOTTOM RIGHT KASRA AND DOT ABOVE",
    "fTOP RIGHT FATHA AND LEFT RINGeRIGHT MIDDLE STROKE AND LEFT RING",
    "eATTACHED BOTTOM RIGHT KASRA AND LEFT RINGfRIGHT HAMZAfLEFT HAMZA",
    "bTATWEEL WITH OVERSTRUCK HAMZAeWAWdTWO DOTS BELOWbLETTER THIN YEHbBASELINE ROUND DOT",
    "bRAISED ROUND DOTbLETTER NOON WITH INVERTED SMALL VcHAH WITH INVERTED SMALL V BELOW",
    "cTAH WITH DOT BELOWeTHREE DOTS BELOWcKEHEH WITH TWO DOTS VERTICALLY BELOWbVERTICAL TAIL.",
    "bPOUND MARK ABOVEbPIASTRE MARK ABOVE......bSMALL HIGH WORD AL-JUZcLOW WORD ISHMAAMeIMAALA",
    "eTASHEELbMADDA WAAJIBbSUPERSCRIPT ALEF MOKHASSASbDOUBLED MADDAbHALF MADDA OVER MADDA",
    "bLETTER BEH WITH SMALL V BELOWeHAMZA ABOVEcJEEM WITH TWO DOTS ABOVEcTAH WITH TWO DOTS ABOVE",
    "cFEH WITH DOT BELOW AND THREE DOTS ABOVEcQAF WITH DOT BELOWcLAM WITH DOUBLE BAR",
    "cMEEM WITH THREE DOTS ABOVEcYEH WITH TWO DOTS BELOW AND HAMZA ABOVEiDOT ABOVEcREH WITH LOOP",
    "cWAW WITH DOT WITHINcROHINGYA YEHcLOW ALEFcDAL WITH THREE DOTS BELOW",
    "cSAD WITH THREE DOTS BELOWcGAF WITH INVERTED STROKEcSTRAIGHT WAWcZAIN WITH INVERTED V ABOVE",
    "cAIN WITH THREE DOTS BELOWcKAF WITH DOT BELOWcQAF WITH DOT BELOW AND NO DOTS ABOVE",
    "cBEH WITH SMALL MEEM ABOVEcPEH WITH SMALL MEEM ABOVEcTEH WITH SMALL TEH ABOVE",
    "cREH WITH SMALL NOON ABOVEcYEH WITH TWO DOTS BELOW AND SMALL NOON ABOVEcAFRICAN FEHdQAF",
    "dNOONcPEH WITH SMALL VcTEH WITH SMALL VcTTEH WITH SMALL VcTCHEH WITH SMALL V",
    "cKEHEH WITH SMALL VcGHAIN WITH THREE DOTS ABOVEcAFRICAN QAF WITH THREE DOTS ABOVE",
    "cJEEM WITH THREE DOTS ABOVEgBELOWcLAM WITH SMALL ARABIC LETTER TAH ABOVEcGRAF",
    "bSMALL FARSI YEHcHIGH FARSI YEHdYEH BARREE WITH TWO DOTS BELOWdWORD SAHdZAH",
    "bLARGE ROUND DOT ABOVEeBELOWbSUKUN BELOWbLARGE CIRCLE BELOWcROUND DOT INSIDE CIRCLE BELOW",
    "bSMALL LOW WAWcHIGH WORD AR-RUBdSADdAINdQAFdNOON WITH KASRAcLOW NOON WITH KASRA",
    "cHIGH WORD ATH-THALATHAeAS-SAJDAeAN-NISFeSAKTAeQIFeWAQFAdFOOTNOTE MARKERdSIGN SAFHA",
    "bDISPUTED END OF AYAHbTURNED DAMMA BELOWbCURLY FATHAcDAMMAcKASRAcFATHATANcDAMMATANcKASRATAN",
    "bTONE ONE DOT ABOVEcTWO DOTS ABOVEcLOOP ABOVEcONE DOT BELOWcTWO DOTS BELOWcLOOP BELOW",
    "bOPEN FATHATANcDAMMATANcKASRATANbSMALL HIGH WAWbFATHA WITH RINGdDOT ABOVE",
    "bKASRA WITH DOT BELOWbLEFT ARROWHEAD ABOVEbRIGHT ARROWHEAD ABOVEbLEFT ARROWHEAD BELOW",
    "bRIGHT ARROWHEAD BELOWbDOUBLE RIGHT ARROWHEAD ABOVEeABOVE WITH DOT",
    "bRIGHT ARROWHEAD ABOVE WITH DOTbDAMMA WITH DOTbMARK SIDEWAYS NOON GHUNNA"]⟩,
  ⟨0x900, [
    "aDEVANAGARI SIGN INVERTED CANDRABINDUcCANDRABINDUcANUSVARAcVISARGAbLETTER SHORT AcAcAAcIcII",
    "cUcUUcVOCALIC RdLcCANDRA EcSHORT EcEcAIcCANDRA OcSHORT OcOcAUcKAcKHAcGAcGHAcNGAcCAcCHAcJA",
    "cJHAcNYAcTTAcTTHAcDDAcDDHAcNNAcTAcTHAcDAcDHAcNAcNNNAcPAcPHAcBAcBHAcMAcYAcRAcRRAcLAcLLAcLLLA",
    "cVAcSHAcSSAcSAcHAbVOWEL SIGN OEdOOEbSIGN NUKTAcAVAGRAHAbVOWEL SIGN AAdIdIIdUdUUdVOCALIC R",
    "eRRdCANDRA EdSHORT EdEdAIdCANDRA OdSHORT OdOdAUbSIGN VIRAMAbVOWEL SIGN PRISHTHAMATRA EdAW",
    "bOMbSTRESS SIGN UDATTAdANUDATTAbGRAVE ACCENTbACUTE ACCENTbVOWEL SIGN CANDRA LONG EdUEdUUE",
    "bLETTER QAcKHHAcGHHAcZAcDDDHAcRHAcFAcYYAcVOCALIC RRdLLbVOWEL SIGN VOCALIC LeLLbDANDA",
    "bDOUBLE DANDAbDIGIT ZEROcONEcTWOcTHREEcFOURcFIVEcSIXcSEVENcEIGHTcNINEbABBREVIATION SIGN",
    "bSIGN HIGH SPACING DOTbLETTER CANDRA AcOEcOOEcAWcUEcUUEcMARWARI DDAcZHAcHEAVY YAcGGAcJJA",
    "cGLOTTAL STOPcDDDAcBBAaBENGALI ANJIbSIGN CANDRABINDUcANUSVARAcVISARGA.bLETTER AcAAcIcIIcU",
    "cUUcVOCALIC RdL..cEcAI..cOcAUcKAcKHAcGAcGHAcNGAcCAcCHAcJAcJHAcNYAcTTAcTTHAcDDAcDDHAcNNAcTA",
    "cTHAcDAcDHAcNA.cPAcPHAcBAcBHAcMAcYAcRA.cLA...cSHAcSSAcSAcHA..bSIGN NUKTAcAVAGRAHA",
    "bVOWEL SIGN AAdIdIIdUdUUdVOCALIC ReRR..dEdAI..dOdAUbSIGN VIRAMAbLETTER KHANDA TA........",
    "bAU LENGTH MARK....bLETTER RRAcRHA.cYYAcVOCALIC RRdLLbVOWEL SIGN VOCALIC LeLL..bDIGIT ZERO",
    "cONEcTWOcTHREEcFOURcFIVEcSIXcSEVENcEIGHTcNINEbLETTER RA WITH MIDDLE DIAGONALeLOWER DIAGONAL",
    "bRUPEE MARKcSIGNbCURRENCY NUMERATOR ONEdTWOdTHREEdFOURdONE LESS THAN THE DENOMINATOR",
    "cDENOMINATOR SIXTEENbISSHARbGANDA MARKbLETTER VEDIC ANUSVARAbABBREVIATION SIGNbSANDHI MARK"]⟩,
  ⟨0xA01, [
    "aGURMUKHI SIGN ADAK BINDIcBINDIcVISARGA.bLETTER AcAAcIcIIcUcUU....cEEcAI..cOOcAUcKAcKHAcGA",
    "cGHAcNGAcCAcCHAcJAcJHAcNYAcTTAcTTHAcDDAcDDHAcNNAcTAcTHAcDAcDHAcNA.cPAcPHAcBAcBHAcMAcYAcRA.",
    "cLAcLLA.cVAcSHA.cSAcHA..bSIGN NUKTA.bVOWEL SIGN AAdIdIIdUdUU....dEEdAI..dOOdAUbSIGN VIRAMA.",
    "..cUDAAT.......bLETTER KHHAcGHHAcZAcRRA.cFA.......bDIGIT ZEROcONEcTWOcTHREEcFOURcFIVEcSIX",
    "cSEVENcEIGHTcNINEbTIPPIbADDAKbIRIbURAbEK ONKARbSIGN YAKASHbABBREVIATION SIGN..........",
    "aGUJARATI SIGN CANDRABINDUcANUSVARAcVISARGA.bLETTER AcAAcIcIIcUcUUcVOCALIC RdL",
    "bVOWEL CANDRA E.bLETTER EcAIbVOWEL CANDRA O.bLETTER OcAUcKAcKHAcGAcGHAcNGAcCAcCHAcJAcJHA",
    "cNYAcTTAcTTHAcDDAcDDHAcNNAcTAcTHAcDAcDHAcNA.cPAcPHAcBAcBHAcMAcYAcRA.cLAcLLA.cVAcSHAcSSAcSA",
    "cHA..bSIGN NUKTAcAVAGRAHAbVOWEL SIGN AAdIdIIdUdUUdVOCALIC ReRRdCANDRA E.dEdAIdCANDRA O.dO",
    "dAUbSIGN VIRAMA..bOM...............bLETTER VOCALIC RRdLLbVOWEL SIGN VOCALIC LeLL..",
    "bDIGIT ZEROcONEcTWOcTHREEcFOURcFIVEcSIXcSEVENcEIGHTcNINEbABBREVIATION SIGNbRUPEE SIGN......",
    ".bLETTER ZHAbSIGN SUKUNcSHADDAcMADDAHcTHREE-DOT NUKTA ABOVEcCIRCLE NUKTA ABOVE",
    "cTWO-CIRCLE NUKTA ABOVE"]⟩,
  ⟨0xB01, [
    "aORIYA SIGN CANDRABINDUcANUSVARAcVISARGA.bLETTER AcAAcIcIIcUcUUcVOCALIC RdL..cEcAI..cOcAU",
    "cKAcKHAcGAcGHAcNGAcCAcCHAcJAcJHAcNYAcTTAcTTHAcDDAcDDHAcNNAcTAcTHAcDAcDHAcNA.cPAcPHAcBAcBHA",
    "cMAcYAcRA.cLAcLLA.cVAcSHAcSSAcSAcHA..bSIGN NUKTAcAVAGRAHAbVOWEL SIGN AAdIdIIdUdUUdVOCALIC R",
    "eRR..dEdAI..dOdAUbSIGN VIRAMA.......cOVERLINEbAI LENGTH MARKbAU LENGTH MARK....bLETTER RRA",
    "cRHA.cYYAcVOCALIC RRdLLbVOWEL SIGN VOCALIC LeLL..bDIGIT ZEROcONEcTWOcTHREEcFOURcFIVEcSIX",
    "cSEVENcEIGHTcNINEbISSHARbLETTER WAbFRACTION ONE QUARTERdHALFcTHREE QUARTERScONE SIXTEENTH",
    "dEIGHTHcTHREE SIXTEENTHS..........aTAMIL SIGN ANUSVARAcVISARGA.bLETTER AcAAcIcIIcUcUU...cE",
    "cEEcAI.cOcOOcAUcKA...cNGAcCA.cJA.cNYAcTTA...cNNAcTA...cNAcNNNAcPA...cMAcYAcRAcRRAcLAcLLA",
    "cLLLAcVAcSHAcSSAcSAcHA....bVOWEL SIGN AAdIdIIdUdUU...dEdEEdAI.dOdOOdAUbSIGN VIRAMA..bOM....",
    "..bAU LENGTH MARK..............bDIGIT ZEROcONEcTWOcTHREEcFOURcFIVEcSIXcSEVENcEIGHTcNINE",
    "bNUMBER TENcONE HUNDREDdTHOUSANDbDAY SIGNbMONTH SIGNbYEAR SIGNbDEBIT SIGNbCREDIT SIGN",
    "bAS ABOVE SIGNbRUPEE SIGNbNUMBER SIGN"]⟩,
  ⟨0xC00, [
    "aTELUGU SIGN COMBINING CANDRABINDU ABOVEcCANDRABINDUcANUSVARAcVISARGA",
    "cCOMBINING ANUSVARA ABOVEbLETTER AcAAcIcIIcUcUUcVOCALIC RdL.cEcEEcAI.cOcOOcAUcKAcKHAcGAcGHA",
    "cNGAcCAcCHAcJAcJHAcNYAcTTAcTTHAcDDAcDDHAcNNAcTAcTHAcDAcDHAcNA.cPAcPHAcBAcBHAcMAcYAcRAcRRA",
    "cLAcLLAcLLLAcVAcSHAcSSAcSAcHA..bSIGN NUKTAcAVAGRAHAbVOWEL SIGN AAdIdIIdUdUUdVOCALIC ReRR.dE",
    "dEEdAI.dOdOOdAUbSIGN VIRAMA.......bLENGTH MARKbAI LENGTH MARK.bLETTER TSAcDZAcRRRA..",
    "cNAKAARA POLLU..cVOCALIC RRdLLbVOWEL SIGN VOCALIC LeLL..bDIGIT ZEROcONEcTWOcTHREEcFOURcFIVE",
    "cSIXcSEVENcEIGHTcNINE.......bSIGN SIDDHAMbFRACTION DIGIT ZERO FOR ODD POWERS OF FOUR",
    "dONE FOR ODD POWERS OF FOURdTWO FOR ODD POWERS OF FOURdTHREE FOR ODD POWERS OF FOUR",
    "dONE FOR EVEN POWERS OF FOURdTWO FOR EVEN POWERS OF FOURdTHREE FOR EVEN POWERS OF FOUR",
    "bSIGN TUUMUaKANNADA SIGN SPACING CANDRABINDUcCANDRABINDUcANUSVARAcVISARGAcSIDDHAMbLETTER A",
    "cAAcIcIIcUcUUcVOCALIC RdL.cEcEEcAI.cOcOOcAUcKAcKHAcGAcGHAcNGAcCAcCHAcJAcJHAcNYAcTTAcTTHA",
    "cDDAcDDHAcNNAcTAcTHAcDAcDHAcNA.cPAcPHAcBAcBHAcMAcYAcRAcRRAcLAcLLA.cVAcSHAcSSAcSAcHA..",
    "bSIGN NUKTAcAVAGRAHAbVOWEL SIGN AAdIdIIdUdUUdVOCALIC ReRR.dEdEEdAI.dOdOOdAUbSIGN VIRAMA....",
    "...bLENGTH MARKbAI LENGTH MARK......bLETTER NAKAARA POLLUcFA.cVOCALIC RRdLL",
    "bVOWEL SIGN VOCALIC LeLL..bDIGIT ZEROcONEcTWOcTHREEcFOURcFIVEcSIXcSEVENcEIGHTcNINE.",
    "bSIGN JIHVAMULIYAcUPADHMANIYA"]⟩,
  ⟨0xD00, [
    "aMALAYALAM SIGN COMBINING ANUSVARA ABOVEcCANDRABINDUcANUSVARAcVISARGAbLETTER VEDIC ANUSVARA",
    "cAcAAcIcIIcUcUUcVOCALIC RdL.cEcEEcAI.cOcOOcAUcKAcKHAcGAcGHAcNGAcCAcCHAcJAcJHAcNYAcTTAcTTHA",
    "cDDAcDDHAcNNAcTAcTHAcDAcDHAcNAcNNNAcPAcPHAcBAcBHAcMAcYAcRAcRRAcLAcLLAcLLLAcVAcSHAcSSAcSAcHA",
    "cTTTAbSIGN VERTICAL BAR VIRAMAcCIRCULAR VIRAMAcAVAGRAHAbVOWEL SIGN AAdIdIIdUdUUdVOCALIC R",
    "eRR.dEdEEdAI.dOdOOdAUbSIGN VIRAMAbLETTER DOT REPHbSIGN PARA....bLETTER CHILLU MdYdLLL",
    "bAU LENGTH MARKbFRACTION ONE ONE-HUNDRED-AND-SIXTIETHdFORTIETHcTHREE EIGHTIETHS",
    "cONE TWENTIETHdTENTHcTHREE TWENTIETHScONE FIFTHbLETTER ARCHAIC IIcVOCALIC RRdLL",
    "bVOWEL SIGN VOCALIC LeLL..bDIGIT ZEROcONEcTWOcTHREEcFOURcFIVEcSIXcSEVENcEIGHTcNINE",
    "bNUMBER TENcONE HUNDREDdTHOUSANDbFRACTION ONE QUARTERdHALFcTHREE QUARTERScONE SIXTEENTH",
    "dEIGHTHcTHREE SIXTEENTHSbDATE MARKbLETTER CHILLU NNdNdRRdLdLLdK.aSINHALA SIGN CANDRABINDU",
    "cANUSVARAYAcVISARGAYA.bLETTER AYANNAcAAYANNAcAEYANNAcAEEYANNAcIYANNAcIIYANNAcUYANNAcUUYANNA",
    "cIRUYANNAcIRUUYANNAcILUYANNAcILUUYANNAcEYANNAcEEYANNAcAIYANNAcOYANNAcOOYANNAcAUYANNA...",
    "cALPAPRAANA KAYANNAcMAHAAPRAANA KAYANNAcALPAPRAANA GAYANNAcMAHAAPRAANA GAYANNA",
    "cKANTAJA NAASIKYAYAcSANYAKA GAYANNAcALPAPRAANA CAYANNAcMAHAAPRAANA CAYANNA",
    "cALPAPRAANA JAYANNAcMAHAAPRAANA JAYANNAcTAALUJA NAASIKYAYAdSANYOOGA NAAKSIKYAYA",
    "cSANYAKA JAYANNAcALPAPRAANA TTAYANNAcMAHAAPRAANA TTAYANNAcALPAPRAANA DDAYANNA",
    "cMAHAAPRAANA DDAYANNAcMUURDHAJA NAYANNAcSANYAKA DDAYANNAcALPAPRAANA TAYANNA",
    "cMAHAAPRAANA TAYANNAcALPAPRAANA DAYANNAcMAHAAPRAANA DAYANNAcDANTAJA NAYANNA.",
    "cSANYAKA DAYANNAcALPAPRAANA PAYANNAcMAHAAPRAANA PAYANNAcALPAPRAANA BAYANNA",
    "cMAHAAPRAANA BAYANNAcMAYANNAcAMBA BAYANNAcYAYANNAcRAYANNA.cDANTAJA LAYANNA..cVAYANNA",
    "cTAALUJA SAYANNAcMUURDHAJA SAYANNAcDANTAJA SAYANNAcHAYANNAcMUURDHAJA LAYANNAcFAYANNA...",
    "bSIGN AL-LAKUNA....bVOWEL SIGN AELA-PILLAdKETTI AEDA-PILLAdDIGA AEDA-PILLAdKETTI IS-PILLA",
    "dDIGA IS-PILLAdKETTI PAA-PILLA.dDIGA PAA-PILLA.dGAETTA-PILLAdKOMBUVAdDIGA KOMBUVA",
    "dKOMBU DEKAdKOMBUVA HAA AELA-PILLAfDIGA AELA-PILLAfGAYANUKITTAdGAYANUKITTA......",
    "bLITH DIGIT ZEROdONEdTWOdTHREEdFOURdFIVEdSIXdSEVENdEIGHTdNINE..",
    "bVOWEL SIGN DIGA GAETTA-PILLAeGAYANUKITTAbPUNCTUATION KUNDDALIYA"]⟩,
  ⟨0xE01, [
    "aTHAI CHARACTER KO KAIcKHO KHAIdKHUATdKHWAIdKHONdRAKHANGcNGO NGUcCHO CHANdCHINGdCHANGcSO SO",
    "cCHO CHOEcYO YINGcDO CHADAcTO PATAKcTHO THANdNANGMONTHOdPHUTHAOcNO NENcDO DEKcTO TAO",
    "cTHO THUNGdTHAHANdTHONGcNO NUcBO BAIMAIcPO PLAcPHO PHUNGcFO FAcPHO PHANcFO FANcPHO SAMPHAO",
    "cMO MAcYO YAKcRO RUAcRUcLO LINGcLUcWO WAENcSO SALAdRUSIdSUAcHO HIPcLO CHULAcO ANGcHO NOKHUK",
    "cPAIYANNOIcSARA AcMAI HAN-AKATcSARA AAdAMdIdIIdUEdUEEdUdUUcPHINTHU....bCURRENCY SYMBOL BAHT",
    "bCHARACTER SARA EdAEdOdAI MAIMUANeMAIMALAIcLAKKHANGYAOcMAIYAMOKcMAITAIKHUcMAI EKdTHOdTRI",
    "dCHATTAWAcTHANTHAKHATcNIKHAHITcYAMAKKANcFONGMANbDIGIT ZEROcONEcTWOcTHREEcFOURcFIVEcSIX",
    "cSEVENcEIGHTcNINEbCHARACTER ANGKHANKHUcKHOMUT"]⟩,
  ⟨0xE81, [
    "aLAO LETTER KOcKHO SUNG.dTAM.cPALI GHAcNGOcCOcPALI CHAcSO TAM.cPALI JHAcNYOcPALI NYAdTTA",
    "dTTHAdDDAdDDHAdNNAcDOcTOcTHO SUNGdTAMcPALI DHAcNOcBOcPOcPHO SUNGcFO TAMcPHO TAMcFO SUNG",
    "cPALI BHAcMOcYOcLO LING.dLOOT.cWOcSANSKRIT SHAdSSAcSO SUNGcHO SUNGcPALI LLAcOcHO TAM",
    "bELLIPSISbVOWEL SIGN AdMAI KANdAAdAMdIdIIdYdYYdUdUUbSIGN PALI VIRAMAbVOWEL SIGN MAI KON",
    "bSEMIVOWEL SIGN LOdNYO..bVOWEL SIGN EdEIdOdAYdAI.bKO LA.bTONE MAI EKdTHOdTIdCATAWA",
    "bCANCELLATION MARKbNIGGAHITA..bDIGIT ZEROcONEcTWOcTHREEcFOURcFIVEcSIXcSEVENcEIGHTcNINE..",
    "bHO NOcMObLETTER KHMU GOdNYO"]⟩,
  ⟨0xF00, [
    "aTIBETAN SYLLABLE OMbMARK GTER YIG MGO TRUNCATED Af-UM RNAM BCAD MAhGTER TSHEG MA",
    "cINITIAL YIG MGO MDUN MAcCLOSING YIG MGO SGAB MAcCARET YIG MGO PHUR SHAD MA",
    "cYIG MGO TSHEG SHAD MAcSBRUL SHADcBSKUR YIG MGOcBKA- SHOG YIG MGOcINTERSYLLABIC TSHEG",
    "cDELIMITER TSHEG BSTARcSHADcNYIS SHADcTSHEG SHADcNYIS TSHEG SHADcRIN CHEN SPUNGS SHAD",
    "cRGYA GRAM SHADcCARET -DZUD RTAGS ME LONG CANcGTER TSHEGbLOGOTYPE SIGN CHAD RTAGS",
    "dLHAG RTAGSbASTROLOGICAL SIGN SGRA GCAN -CHAR RTAGSd-KHYUD PAdSDONG TSHUGS",
    "bSIGN RDEL DKAR GCIGeGNYISeGSUMdNAG GCIGeGNYISdDKAR RDEL NAGbDIGIT ZEROcONEcTWOcTHREEcFOUR",
    "cFIVEcSIXcSEVENcEIGHTcNINEcHALF ONEdTWOdTHREEdFOURdFIVEdSIXdSEVENdEIGHTdNINEdZERO",
    "bMARK BSDUS RTAGScNGAS BZUNG NYI ZLAcCARET -DZUD RTAGS BZHI MIG CANcNGAS BZUNG SGOR RTAGS",
    "cCHE MGOcTSA -PHRUcGUG RTAGS GYONeGYAScANG KHANG GYONeGYASbSIGN YAR TSHEScMAR TSHES",
    "bLETTER KAcKHAcGAcGHAcNGAcCAcCHAcJA.cNYAcTTAcTTHAcDDAcDDHAcNNAcTAcTHAcDAcDHAcNAcPAcPHAcBA",
    "cBHAcMAcTSAcTSHAcDZAcDZHAcWAcZHAcZAc-AcYAcRAcLAcSHAcSSAcSAcHAcAcKSSAcFIXED-FORM RAcKKAcRRA.",
    "...bVOWEL SIGN AAdIdIIdUdUUdVOCALIC ReRReLeLLdEdEEdOdOObSIGN RJES SU NGA ROcRNAM BCAD",
    "bVOWEL SIGN REVERSED IeIIbSIGN NYI ZLA NAA DAcSNA LDANbMARK HALANTAcPALUTAbSIGN LCI RTAGS",
    "cYANG RTAGScLCE TSA CANcMCHU CANcGRU CAN RGYINGSdMED RGYINGScINVERTED MCHU CAN",
    "bSUBJOINED SIGN LCE TSA CANdMCHU CANdINVERTED MCHU CANcLETTER KAdKHAdGAdGHAdNGAdCAdCHAdJA.",
    "dNYAdTTAdTTHAdDDAdDDHAdNNAdTAdTHAdDAdDHAdNAdPAdPHAdBAdBHAdMAdTSAdTSHAdDZAdDZHAdWAdZHAdZAd-A",
    "dYAdRAdLAdSHAdSSAdSAdHAdAdKSSAdFIXED-FORM WAfYAfRA.bKU RU KHAdKHA BZHI MIG CAN",
    "bCANTILLATION SIGN HEAVY BEATdLIGHT BEATdCANG TE-UdSBUB -CHALbSYMBOL DRIL BUcRDO RJE",
    "cPADMA GDANcRDO RJE RGYA GRAMcPHUR PAcNOR BUdBU NYIS -KHYILeGSUM -KHYILeBZHI -KHYIL.",
    "bSIGN RDEL NAG RDEL DKAReGSUMbMARK BSKA- SHOG GI MGO RGYANcMNYAM YIG GI MGO RGYAN",
    "cNYIS TSHEGcINITIAL BRDA RNYING YIG MGO MDUN MAcCLOSING BRDA RNYING YIG MGO SGAB MA",
    "aRIGHT-FACING SVASTI SIGNaLEFT-FACING SVASTI SIGNaRIGHT-FACING SVASTI SIGN WITH DOTS",
    "aLEFT-FACING SVASTI SIGN WITH DOTSaTIBETAN MARK LEADING MCHAN RTAGScTRAILING MCHAN RTAGS"]⟩,
  ⟨0x1000, [
    "aMYANMAR LETTER KAcKHAcGAcGHAcNGAcCAcCHAcJAcJHAcNYAcNNYAcTTAcTTHAcDDAcDDHAcNNAcTAcTHAcDA",
    "cDHAcNAcPAcPHAcBAcBHAcMAcYAcRAcLAcWAcSAcHAcLLAcAcSHAN AcIcIIcUcUUcEcMON EcOcAU",
    "bVOWEL SIGN TALL AAdAAdIdIIdUdUUdEdAIdMON IIeOdE ABOVEbSIGN ANUSVARAcDOT BELOWcVISARGA",
    "cVIRAMAcASATbCONSONANT SIGN MEDIAL YAeRAeWAeHAbLETTER GREAT SAbDIGIT ZEROcONEcTWOcTHREE",
    "cFOURcFIVEcSIXcSEVENcEIGHTcNINEbSIGN LITTLE SECTIONcSECTIONbSYMBOL LOCATIVEcCOMPLETED",
    "cAFOREMENTIONEDcGENITIVEbLETTER SHAcSSAcVOCALIC RdRRdLdLLbVOWEL SIGN VOCALIC ReRReLeLL",
    "bLETTER MON NGAdJHAdBBAdBBEbCONSONANT SIGN MON MEDIAL NAfMAfLAbLETTER SGAW KAREN SHA",
    "bVOWEL SIGN SGAW KAREN EUbTONE MARK SGAW KAREN HATHIfKE PHObLETTER WESTERN PWO KAREN THA",
    "fPWAbVOWEL SIGN WESTERN PWO KAREN EUgUEbSIGN WESTERN PWO KAREN TONE-1g2g3g4g5",
    "bLETTER EASTERN PWO KAREN NNAfYWAfGHWAbVOWEL SIGN GEBA KAREN IdKAYAH OEeUeEEbLETTER SHAN KA",
    "dKHAdGAdCAdZAdNYAdDAdNAdPHAdFAdBAdTHAdHAbCONSONANT SIGN SHAN MEDIAL WAbVOWEL SIGN SHAN AAeE",
    "eE ABOVEeFINAL YbSIGN SHAN TONE-2e3e5e6dCOUNCIL TONE-2f3eEMPHATIC TONE",
    "bLETTER RUMAI PALAUNG FAbSIGN RUMAI PALAUNG TONE-5bSHAN DIGIT ZEROdONEdTWOdTHREEdFOURdFIVE",
    "dSIXdSEVENdEIGHTdNINEbSIGN KHAMTI TONE-1e3bVOWEL SIGN AITON AeAIbSYMBOL SHAN ONE",
    "dEXCLAMATION"]⟩]

end LogHarvest.Text.Table
