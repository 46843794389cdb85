import LogHarvest.Text.Table.NameRun

/-!
# Names: Georgian, the scripts of Africa, America and Southeast Asia, and phonetic letters
-/

namespace LogHarvest.Text.Table

def syllabicNames : List NameRun := [
  ⟨0x10A0, [
    "aGEORGIAN CAPITAL LETTER ANdBANdGANdDONdENdVINdZENdTANdINdKANdLASdMANdNARdONdPARdZHARdRAE",
    "dSANdTARdUNdPHARdKHARdGHANdQARdSHINdCHINdCANdJILdCILdCHARdXANdJHANdHAEdHEdHIEdWEdHARdHOE.",
    "dYN.....dAEN..bLETTER ANcBANcGANcDONcENcVINcZENcTANcINcKANcLAScMANcNARcONcPARcZHARcRAEcSAN",
    "cTARcUNcPHARcKHARcGHANcQARcSHINcCHINcCANcJILcCILcCHARcXANcJHANcHAEcHEcHIEcWEcHARcHOEcFIcYN",
    "cELIFIcTURNED GANcAINbPARAGRAPH SEPARATORaMODIFIER LETTER GEORGIAN NARaGEORGIAN LETTER AEN",
    "cHARD SIGNcLABIAL SIGN"]⟩,
  ⟨0x1100, [
    "aHANGUL CHOSEONG KIYEOKcSSANGKIYEOKcNIEUNcTIKEUTcSSANGTIKEUTcRIEULcMIEUMcPIEUPcSSANGPIEUP",
    "cSIOScSSANGSIOScIEUNGcCIEUCcSSANGCIEUCcCHIEUCHcKHIEUKHcTHIEUTHcPHIEUPHcHIEUHcNIEUN-KIYEOK",
    "cSSANGNIEUNcNIEUN-TIKEUTdPIEUPcTIKEUT-KIYEOKcRIEUL-NIEUNcSSANGRIEULcRIEUL-HIEUH",
    "cKAPYEOUNRIEULcMIEUM-PIEUPcKAPYEOUNMIEUMcPIEUP-KIYEOKdNIEUNdTIKEUTdSIOSdSIOS-KIYEOKeTIKEUT",
    "ePIEUPdSSANGSIOSdSIOS-CIEUCdCIEUCdCHIEUCHdTHIEUTHdPHIEUPHcKAPYEOUNPIEUPcKAPYEOUNSSANGPIEUP",
    "cSIOS-KIYEOKdNIEUNdTIKEUTdRIEULdMIEUMdPIEUPdPIEUP-KIYEOKdSSANGSIOSdIEUNGdCIEUCdCHIEUCH",
    "dKHIEUKHdTHIEUTHdPHIEUPHdHIEUHcCHITUEUMSIOScCHITUEUMSSANGSIOScCEONGCHIEUMSIOS",
    "cCEONGCHIEUMSSANGSIOScPANSIOScIEUNG-KIYEOKdTIKEUTdMIEUMdPIEUPdSIOSdPANSIOScSSANGIEUNG",
    "cIEUNG-CIEUCdCHIEUCHdTHIEUTHdPHIEUPHcYESIEUNGcCIEUC-IEUNGcCHITUEUMCIEUCcCHITUEUMSSANGCIEUC",
    "cCEONGCHIEUMCIEUCcCEONGCHIEUMSSANGCIEUCcCHIEUCH-KHIEUKHdHIEUHcCHITUEUMCHIEUCH",
    "cCEONGCHIEUMCHIEUCHcPHIEUPH-PIEUPcKAPYEOUNPHIEUPHcSSANGHIEUHcYEORINHIEUHcKIYEOK-TIKEUT",
    "cNIEUN-SIOSdCIEUCdHIEUHcTIKEUT-RIEULcFILLERbJUNGSEONG FILLERcAcAEcYAcYAEcEOcEcYEOcYEcOcWA",
    "cWAEcOEcYOcUcWEOcWEcWIcYUcEUcYIcIcA-OdUcYA-OdYOcEO-OdUdEUcYEO-OdUcO-EOdEdYEdOdUcYO-YAdYAE",
    "dYEOdOdIcU-AdAEdEO-EUdYEdUcYU-AdEOdEdYEOdYEdUdIcEU-UdEUcYI-UcI-AdYAdOdUdEUdARAEAcARAEA",
    "cARAEA-EOdUdIcSSANGARAEAcA-EUcYA-UcYEO-YAcO-YAdYAEbJONGSEONG KIYEOKcSSANGKIYEOKcKIYEOK-SIOS",
    "cNIEUNcNIEUN-CIEUCdHIEUHcTIKEUTcRIEULcRIEUL-KIYEOKdMIEUMdPIEUPdSIOSdTHIEUTHdPHIEUPHdHIEUH",
    "cMIEUMcPIEUPcPIEUP-SIOScSIOScSSANGSIOScIEUNGcCIEUCcCHIEUCHcKHIEUKHcTHIEUTHcPHIEUPHcHIEUH",
    "cKIYEOK-RIEULdSIOS-KIYEOKcNIEUN-KIYEOKdTIKEUTdSIOSdPANSIOSdTHIEUTHcTIKEUT-KIYEOKdRIEUL",
    "cRIEUL-KIYEOK-SIOSdNIEUNdTIKEUTdTIKEUT-HIEUHcSSANGRIEULcRIEUL-MIEUM-KIYEOKeSIOSdPIEUP-SIOS",
    "eHIEUHdKAPYEOUNPIEUPdSSANGSIOSdPANSIOSdKHIEUKHdYEORINHIEUHcMIEUM-KIYEOKdRIEULdPIEUPdSIOS",
    "dSSANGSIOSdPANSIOSdCHIEUCHdHIEUHcKAPYEOUNMIEUMcPIEUP-RIEULdPHIEUPHdHIEUHcKAPYEOUNPIEUP",
    "cSIOS-KIYEOKdTIKEUTdRIEULdPIEUPcPANSIOScIEUNG-KIYEOKdSSANGKIYEOKcSSANGIEUNGcIEUNG-KHIEUKH",
    "cYESIEUNGcYESIEUNG-SIOSdPANSIOScPHIEUPH-PIEUPcKAPYEOUNPHIEUPHcHIEUH-NIEUNdRIEULdMIEUMdPIEUP",
    "cYEORINHIEUHcKIYEOK-NIEUNdPIEUPdCHIEUCHdKHIEUKHdHIEUHcSSANGNIEUN"]⟩,
  ⟨0x1200, [
    "aETHIOPIC SYLLABLE HAcHUcHIcHAAcHEEcHEcHOcHOAcLAcLUcLIcLAAcLEEcLEcLOcLWAcHHAcHHUcHHIcHHAA",
    "cHHEEcHHEcHHOcHHWAcMAcMUcMIcMAAcMEEcMEcMOcMWAcSZAcSZUcSZIcSZAAcSZEEcSZEcSZOcSZWAcRAcRUcRI",
    "cRAAcREEcREcROcRWAcSAcSUcSIcSAAcSEEcSEcSOcSWAcSHAcSHUcSHIcSHAAcSHEEcSHEcSHOcSHWAcQAcQUcQI",
    "cQAAcQEEcQEcQOcQOAcQWA.cQWIcQWAAcQWEEcQWE..cQHAcQHUcQHIcQHAAcQHEEcQHEcQHO.cQHWA.cQHWIcQHWAA",
    "cQHWEEcQHWE..cBAcBUcBIcBAAcBEEcBEcBOcBWAcVAcVUcVIcVAAcVEEcVEcVOcVWAcTAcTUcTIcTAAcTEEcTEcTO",
    "cTWAcCAcCUcCIcCAAcCEEcCEcCOcCWAcXAcXUcXIcXAAcXEEcXEcXOcXOAcXWA.cXWIcXWAAcXWEEcXWE..cNAcNU",
    "cNIcNAAcNEEcNEcNOcNWAcNYAcNYUcNYIcNYAAcNYEEcNYEcNYOcNYWAcGLOTTAL AdUdIdAAdEEdEdOdWAcKAcKU",
    "cKIcKAAcKEEcKEcKOcKOAcKWA.cKWIcKWAAcKWEEcKWE..cKXAcKXUcKXIcKXAAcKXEEcKXEcKXO.cKXWA.cKXWI",
    "cKXWAAcKXWEEcKXWE..cWAcWUcWIcWAAcWEEcWEcWOcWOAcPHARYNGEAL AdUdIdAAdEEdEdO.cZAcZUcZIcZAAcZEE",
    "cZEcZOcZWAcZHAcZHUcZHIcZHAAcZHEEcZHEcZHOcZHWAcYAcYUcYIcYAAcYEEcYEcYOcYOAcDAcDUcDIcDAAcDEE",
    "cDEcDOcDWAcDDAcDDUcDDIcDDAAcDDEEcDDEcDDOcDDWA"]⟩,
  ⟨0x1300, [
    "aETHIOPIC SYLLABLE JAcJUcJIcJAAcJEEcJEcJOcJWAcGAcGUcGIcGAAcGEEcGEcGOcGOAcGWA.cGWIcGWAAcGWEE",
    "cGWE..cGGAcGGUcGGIcGGAAcGGEEcGGEcGGOcGGWAAcTHAcTHUcTHIcTHAAcTHEEcTHEcTHOcTHWAcCHAcCHUcCHI",
    "cCHAAcCHEEcCHEcCHOcCHWAcPHAcPHUcPHIcPHAAcPHEEcPHEcPHOcPHWAcTSAcTSUcTSIcTSAAcTSEEcTSEcTSO",
    "cTSWAcTZAcTZUcTZIcTZAAcTZEEcTZEcTZOcTZOAcFAcFUcFIcFAAcFEEcFEcFOcFWAcPAcPUcPIcPAAcPEEcPEcPO",
    "cPWAcRYAcMYAcFYA..bCOMBINING GEMINATION AND VOWEL LENGTH MARKcVOWEL LENGTH MARK",
    "cGEMINATION MARKbSECTION MARKbWORDSPACEbFULL STOPbCOMMAbSEMICOLONbCOLONbPREFACE COLON",
    "bQUESTION MARKbPARAGRAPH SEPARATORbDIGIT ONEcTWOcTHREEcFOURcFIVEcSIXcSEVENcEIGHTcNINE",
    "bNUMBER TENcTWENTYcTHIRTYcFORTYcFIFTYcSIXTYcSEVENTYcEIGHTYcNINETYcHUNDREDcTEN THOUSAND...",
    "bSYLLABLE SEBATBEIT MWAcMWIcMWEEcMWEcSEBATBEIT BWAcBWIcBWEEcBWEcSEBATBEIT FWAcFWIcFWEEcFWE",
    "cSEBATBEIT PWAcPWIcPWEEcPWEbTONAL MARK YIZETdDERETdRIKRIKdSHORT RIKRIKdDIFATdKENATdCHIRET",
    "dHIDETdDERET-HIDETdKURT......aCHEROKEE LETTER AcEcIcOcUcVcGAcKAcGEcGIcGOcGUcGVcHAcHEcHIcHO",
    "cHUcHVcLAcLEcLIcLOcLUcLVcMAcMEcMIcMOcMUcNAcHNAcNAHcNEcNIcNOcNUcNVcQUAcQUEcQUIcQUOcQUUcQUV",
    "cSAcScSEcSIcSOcSUcSVcDAcTAcDEcTEcDIcTIcDOcDUcDVcDLAcTLAcTLEcTLIcTLOcTLUcTLVcTSAcTSEcTSIcTSO",
    "cTSUcTSVcWAcWEcWIcWOcWUcWVcYAcYEcYIcYOcYUcYVcMV..bSMALL LETTER YEdYIdYOdYUdYVdMV"]⟩,
  ⟨0x1400, [
    "aCANADIAN SYLLABICS HYPHENcEcAAIcIcIIcOcOOcY-CREE OOcCARRIER EEdIcAcAAcWEcWEST-CREE WEcWI",
    "cWEST-CREE WIcWIIcWEST-CREE WIIcWOcWEST-CREE WOcWOOcWEST-CREE WOOcNASKAPI WOOcWA",
    "cWEST-CREE WAcWAAcWEST-CREE WAAcNASKAPI WAAcAIcY-CREE WcGLOTTAL STOPcFINAL ACUTEdGRAVE",
    "dBOTTOM HALF RINGdTOP HALF RINGdRIGHT HALF RINGdRINGdDOUBLE ACUTEeSHORT VERTICAL STROKES",
    "dMIDDLE DOTdSHORT HORIZONTAL STROKEdPLUSdDOWN TACKcENcINcONcANcPEcPAAIcPIcPIIcPOcPOO",
    "cY-CREE POOcCARRIER HEEdHIcPAcPAAcPWEcWEST-CREE PWEcPWIcWEST-CREE PWIcPWIIcWEST-CREE PWII",
    "cPWOcWEST-CREE PWOcPWOOcWEST-CREE PWOOcPWAcWEST-CREE PWAcPWAAcWEST-CREE PWAAcY-CREE PWAAcP",
    "cWEST-CREE PcCARRIER HcTEcTAAIcTIcTIIcTOcTOOcY-CREE TOOcCARRIER DEEdDIcTAcTAAcTWE",
    "cWEST-CREE TWEcTWIcWEST-CREE TWIcTWIIcWEST-CREE TWIIcTWOcWEST-CREE TWOcTWOOcWEST-CREE TWOO",
    "cTWAcWEST-CREE TWAcTWAAcWEST-CREE TWAAcNASKAPI TWAAcTcTTEcTTIcTTOcTTAcKEcKAAIcKIcKIIcKOcKOO",
    "cY-CREE KOOcKAcKAAcKWEcWEST-CREE KWEcKWIcWEST-CREE KWIcKWIIcWEST-CREE KWIIcKWO",
    "cWEST-CREE KWOcKWOOcWEST-CREE KWOOcKWAcWEST-CREE KWAcKWAAcWEST-CREE KWAAcNASKAPI KWAAcKcKW",
    "cSOUTH-SLAVEY KEHeKIHeKOHeKAHcCEcCAAIcCIcCIIcCOcCOOcY-CREE COOcCAcCAAcCWEcWEST-CREE CWEcCWI",
    "cWEST-CREE CWIcCWIIcWEST-CREE CWIIcCWOcWEST-CREE CWOcCWOOcWEST-CREE CWOOcCWAcWEST-CREE CWA",
    "cCWAAcWEST-CREE CWAAcNASKAPI CWAAcCcSAYISI THcMEcMAAIcMIcMIIcMOcMOOcY-CREE MOOcMAcMAAcMWE",
    "cWEST-CREE MWEcMWIcWEST-CREE MWIcMWIIcWEST-CREE MWIIcMWOcWEST-CREE MWOcMWOOcWEST-CREE MWOO",
    "cMWAcWEST-CREE MWAcMWAAcWEST-CREE MWAAcNASKAPI MWAAcMcWEST-CREE McMHcATHAPASCAN McSAYISI M",
    "cNEcNAAIcNIcNIIcNOcNOOcY-CREE NOOcNAcNAAcNWEcWEST-CREE NWEcNWAcWEST-CREE NWAcNWAA",
    "cWEST-CREE NWAAcNASKAPI NWAAcNcCARRIER NGcNHcLEcLAAIcLIcLIIcLOcLOOcY-CREE LOOcLAcLAAcLWE",
    "cWEST-CREE LWEcLWIcWEST-CREE LWIcLWIIcWEST-CREE LWIIcLWOcWEST-CREE LWOcLWOOcWEST-CREE LWOO",
    "cLWAcWEST-CREE LWAcLWAAcWEST-CREE LWAAcLcWEST-CREE LcMEDIAL LcSEcSAAIcSIcSIIcSOcSOO",
    "cY-CREE SOOcSAcSAAcSWEcWEST-CREE SWEcSWIcWEST-CREE SWIcSWIIcWEST-CREE SWIIcSWO",
    "cWEST-CREE SWOcSWOOcWEST-CREE SWOO"]⟩,
  ⟨0x1500, [
    "aCANADIAN SYLLABICS SWAcWEST-CREE SWAcSWAAcWEST-CREE SWAAcNASKAPI SWAAcScATHAPASCAN ScSW",
    "cBLACKFOOT ScMOOSE-CREE SKcNASKAPI SKWdS-WdSPWAdSTWAdSKWAdSCWAcSHEcSHIcSHIIcSHOcSHOOcSHA",
    "cSHAAcSHWEcWEST-CREE SHWEcSHWIcWEST-CREE SHWIcSHWIIcWEST-CREE SHWIIcSHWOcWEST-CREE SHWO",
    "cSHWOOcWEST-CREE SHWOOcSHWAcWEST-CREE SHWAcSHWAAcWEST-CREE SHWAAcSHcYEcYAAIcYIcYIIcYOcYOO",
    "cY-CREE YOOcYAcYAAcYWEcWEST-CREE YWEcYWIcWEST-CREE YWIcYWIIcWEST-CREE YWIIcYWO",
    "cWEST-CREE YWOcYWOOcWEST-CREE YWOOcYWAcWEST-CREE YWAcYWAAcWEST-CREE YWAAcNASKAPI YWAAcY",
    "cBIBLE-CREE YcWEST-CREE YcSAYISI YIcREcR-CREE REcWEST-CREE LEcRAAIcRIcRIIcROcROO",
    "cWEST-CREE LOcRAcRAAcWEST-CREE LAcRWAAcWEST-CREE RWAAcRcWEST-CREE RcMEDIAL RcFEcFAAIcFIcFII",
    "cFOcFOOcFAcFAAcFWAAcWEST-CREE FWAAcFcTHEcN-CREE THEcTHIcN-CREE THIcTHIIcN-CREE THIIcTHO",
    "cTHOOcTHAcTHAAcTHWAAcWEST-CREE THWAAcTHcTTHEcTTHIcTTHOcTTHAcTTHcTYEcTYIcTYOcTYAcNUNAVIK HE",
    "dHIdHIIdHOdHOOdHAdHAAdHcNUNAVUT HcHKcQAAIcQIcQIIcQOcQOOcQAcQAAcQcTLHEcTLHIcTLHOcTLHA",
    "cWEST-CREE REeRIeROeRAcNGAAIcNGIcNGIIcNGOcNGOOcNGAcNGAAcNGcNNGcSAYISI SHEdSHIdSHOdSHA",
    "cWOODS-CREE THEeTHIeTHOeTHAeTHcLHIcLHIIcLHOcLHOOcLHAcLHAAcLHcTH-CREE THEeTHIeTHIIeTHOeTHOO",
    "eTHAeTHAAeTHcAIVILIK BcBLACKFOOT EdIdOdAdWEdWIdWOdWAdNEdNIdNOdNAdKEdKIdKOdKAcSAYISI HEdHI",
    "dHOdHAcCARRIER GHUdGHOdGHEdGHEEdGHIdGHAdRUdROdREdREEdRIdRAdWUdWOdWEdWEEdWIdWAdHWUdHWOdHWE",
    "dHWEEdHWIdHWAdTHUdTHOdTHEdTHEEdTHIdTHAdTTUdTTOdTTEdTTEEdTTIdTTAdPUdPOdPEdPEEdPIdPAdPdGUdGO",
    "dGEdGEEdGIdGAdKHUdKHOdKHEdKHEEdKHIdKHAdKKUdKKOdKKEdKKEEdKKI"]⟩,
  ⟨0x1600, [
    "aCANADIAN SYLLABICS CARRIER KKAdKKdNUdNOdNEdNEEdNIdNAdMUdMOdMEdMEEdMIdMAdYUdYOdYEdYEEdYIdYA",
    "dJUcSAYISI JUcCARRIER JOdJEdJEEdJIcSAYISI JIcCARRIER JAdJJUdJJOdJJEdJJEEdJJIdJJAdLUdLOdLE",
    "dLEEdLIdLAdDLUdDLOdDLEdDLEEdDLIdDLAdLHUdLHOdLHEdLHEEdLHIdLHAdTLHUdTLHOdTLHEdTLHEEdTLHIdTLHA",
    "dTLUdTLOdTLEdTLEEdTLIdTLAdZUdZOdZEdZEEdZIdZAdZdINITIAL ZdDZUdDZOdDZEdDZEEdDZIdDZAdSUdSOdSE",
    "dSEEdSIdSAdSHUdSHOdSHEdSHEEdSHIdSHAdSHdTSUdTSOdTSEdTSEEdTSIdTSAdCHUdCHOdCHEdCHEEdCHIdCHA",
    "dTTSUdTTSOdTTSEdTTSEEdTTSIdTTSAcCHI SIGNcFULL STOPcQAIcNGAIcNNGIcNNGIIcNNGOcNNGOOcNNGA",
    "cNNGAAcWOODS-CREE THWEEeTHWIeTHWIIeTHWOeTHWOOeTHWAeTHWAAeFINAL THcBLACKFOOT W",
    "aOGHAM SPACE MARKbLETTER BEITHcLUIScFEARNcSAILcNIONcUATHcDAIRcTINNEcCOLLcCEIRTcMUINcGORT",
    "cNGEADALcSTRAIFcRUIScAILMcONNcURcEADHADHcIODHADHcEABHADHcORcUILLEANNcIFINcEAMHANCHOLLcPEITH",
    "bFEATHER MARKbREVERSED FEATHER MARK...aRUNIC LETTER FEHU FEOH FE FcVcURUZ UR UcYRcYcW",
    "cTHURISAZ THURS THORNcETHcANSUZ AcOS OcAC AcAESCcLONG-BRANCH-OSS OcSHORT-TWIG-OSS OcOcOEcON",
    "cRAIDO RAD REID RcKAUNAcCENcKAUN KcGcENGcGEBO GYFU GcGARcWUNJO WYNN WcHAGLAZ HcHAEGL H",
    "cLONG-BRANCH-HAGALL HcSHORT-TWIG-HAGALL HcNAUDIZ NYD NAUD NcSHORT-TWIG-NAUD NcDOTTED-N",
    "cISAZ IS ISS IcEcJERAN JcGERcLONG-BRANCH-AR AEcSHORT-TWIG-AR AcIWAZ EOHcPERTHO PEORTH P",
    "cALGIZ EOLHXcSOWILO ScSIGEL LONG-BRANCH-SOL ScSHORT-TWIG-SOL ScCcZcTIWAZ TIR TYR T",
    "cSHORT-TWIG-TYR TcDcBERKANAN BEORC BJARKAN BcSHORT-TWIG-BJARKAN BcDOTTED-PcOPEN-P",
    "cEHWAZ EH EcMANNAZ MAN McLONG-BRANCH-MADR McSHORT-TWIG-MADR McLAUKAZ LAGU LOGR LcDOTTED-L",
    "cINGWAZcINGcDAGAZ DAEG DcOTHALAN ETHEL OcEARcIORcCWEORTHcCALCcCEALCcSTANcLONG-BRANCH-YR",
    "cSHORT-TWIG-YRcICELANDIC-YRcQcXbSINGLE PUNCTUATIONbMULTIPLE PUNCTUATIONbCROSS PUNCTUATION",
    "bARLAUG SYMBOLbTVIMADUR SYMBOLbBELGTHOR SYMBOLbLETTER KcSHcOOcFRANKS CASKET OSeISeEHeAC",
    "eAESC"]⟩,
  ⟨0x1700, [
    "aTAGALOG LETTER AcIcUcKAcGAcNGAcTAcDAcNAcPAcBAcMAcYAcRAcLAcWAcSAcHAbVOWEL SIGN IdU",
    "bSIGN VIRAMAcPAMUDPOD.........bLETTER ARCHAIC RAaHANUNOO LETTER AcIcUcKAcGAcNGAcTAcDAcNAcPA",
    "cBAcMAcYAcRAcLAcWAcSAcHAbVOWEL SIGN IdUbSIGN PAMUDPODaPHILIPPINE SINGLE PUNCTUATION",
    "bDOUBLE PUNCTUATION.........aBUHID LETTER AcIcUcKAcGAcNGAcTAcDAcNAcPAcBAcMAcYAcRAcLAcWAcSA",
    "cHAbVOWEL SIGN IdU............aTAGBANWA LETTER AcIcUcKAcGAcNGAcTAcDAcNAcPAcBAcMAcYA.cLAcWA",
    "cSA.bVOWEL SIGN IdU............aKHMER LETTER KAcKHAcKOcKHOcNGOcCAcCHAcCOcCHOcNYOcDAcTTHAcDO",
    "cTTHOcNNOcTAcTHAcTOcTHOcNOcBAcPHAcPOcPHOcMOcYOcROcLOcVOcSHAcSSOcSAcHAcLAcQA",
    "bINDEPENDENT VOWEL QAQdQAAdQIdQIIdQUdQUKdQUUdQUUVdRYdRYYdLYdLYYdQEdQAIdQOO TYPE ONEfTWOdQAU",
    "bVOWEL INHERENT AQdAAcSIGN AAdIdIIdYdYYdUdUUdUAdOEdYAdIEdEdAEdAIdOOdAUbSIGN NIKAHITcREAHMUK",
    "cYUUKALEAPINTUcMUUSIKATOANcTRIISAPcBANTOCcROBATcTOANDAKHIATcKAKABATcAHSDAcSAMYOK SANNYA",
    "cVIRIAMcCOENGcBATHAMASATcKHANcBARIYOOSANcCAMNUC PII KUUHcLEK TOOcBEYYALcPHNAEK MUANcKOOMUUT",
    "bCURRENCY SYMBOL RIELbSIGN AVAKRAHASANYAcATTHACAN..bDIGIT ZEROcONEcTWOcTHREEcFOURcFIVEcSIX",
    "cSEVENcEIGHTcNINE......bSYMBOL LEK ATTAK SONeMUOYePIIeBEIeBUONePRAMePRAM-MUOYfPIIfBEIfBUON"]⟩,
  ⟨0x1800, [
    "aMONGOLIAN BIRGAbELLIPSISbCOMMAbFULL STOPbCOLONbFOUR DOTSbTODO SOFT HYPHEN",
    "bSIBE SYLLABLE BOUNDARY MARKERbMANCHU COMMAcFULL STOPbNIRUGUbFREE VARIATION SELECTOR ONE",
    "eTWOeTHREEbVOWEL SEPARATORbFREE VARIATION SELECTOR FOURbDIGIT ZEROcONEcTWOcTHREEcFOURcFIVE",
    "cSIXcSEVENcEIGHTcNINE......bLETTER AcEcIcOcUcOEcUEcEEcNAcANGcBAcPAcQAcGAcMAcLAcSAcSHAcTAcDA",
    "cCHAcJAcYAcRAcWAcFAcKAcKHAcTSAcZAcHAAcZRAcLHAcZHIcCHIcTODO LONG VOWEL SIGNdEdIdOdUdOEdUE",
    "dANGdBAdPAdQAdGAdMAdTAdDAdCHAdJAdTSAdYAdWAdKAdGAAdHAAdJIAdNIAdDZAcSIBE EdIdIYdUEdUdANGdKA",
    "dGAdHAdPAdSHAdTAdDAdJAdFAdGAAdHAAdTSAdZAdRAAdCHAdZHAcMANCHU IdKAdRAdFAdZHA",
    "cCHA WITH TWO DOTS.......cALI GALI ANUSVARA ONEeVISARGA ONEeDAMARUeUBADAMAeINVERTED UBADAMA",
    "eBALUDAeTHREE BALUDAeAeIeKAeNGAeCAeTTAeTTHAeDDAeNNAeTAeDAePAePHAeSSAeZHAeZAeAH",
    "cTODO ALI GALI TAfZHAcMANCHU ALI GALI GHAfNGAfCAfJHAfTTAfDDHAfTAfDHAfSSAfCYAfZHAfZA",
    "cALI GALI HALF UfYAcMANCHU ALI GALI BHAcALI GALI DAGALGAcMANCHU ALI GALI LHA.....",
    "aCANADIAN SYLLABICS OYcAYcAAYcWAYcPOYcPAYcPWOYcTAYcKAYcKWAYcMAYcNOYcNAYcLAYcSOYcSAYcSHOY",
    "cSHAYcSHWOYcYOYcYAYcRAYcNWIcOJIBWAY NWIcNWIIcOJIBWAY NWIIcNWOcOJIBWAY NWOcNWOOcOJIBWAY NWOO",
    "cRWEEcRWIcRWIIcRWOcRWOOcRWAcOJIBWAY PdTdKdCdMdNdSdSHcEASTERN WcWESTERN WcFINAL SMALL RING",
    "dRAISED DOTcR-CREE RWEcWEST-CREE LOOeLAAcTHWEcTHWAcTTHWEcTTHOOcTTHAAcTLHWEcTLHOO",
    "cSAYISI SHWEdSHOOdHOOcCARRIER GWUdDENE GEEdGAAdGWAcSAYISI JUUcCARRIER JWAcBEAVER DENE LeR",
    "cCARRIER DENTAL S"]⟩,
  ⟨0x1900, [
    "aLIMBU VOWEL-CARRIER LETTERbLETTER KAcKHAcGAcGHAcNGAcCAcCHAcJAcJHAcYANcTAcTHAcDAcDHAcNAcPA",
    "cPHAcBAcBHAcMAcYAcRAcLAcWAcSHAcSSAcSAcHAcGYANcTRA.bVOWEL SIGN AdIdUdEEdAIdOOdAUdEdO",
    "bSUBJOINED LETTER YAdRAdWA....bSMALL LETTER KAdNGAdANUSVARAdTAdNAdPAdMAdRAdLA",
    "bSIGN MUKPHRENGcKEMPHRENGcSA-I....cLOO...bEXCLAMATION MARKbQUESTION MARKbDIGIT ZEROcONEcTWO",
    "cTHREEcFOURcFIVEcSIXcSEVENcEIGHTcNINEaTAI LE LETTER KAdXAdNGAdTSAdSAdYAdTAdTHAdLAdPAdPHAdMA",
    "dFAdVAdHAdQAdKHAdTSHAdNAdAdIdEEdEHdUdOOdOdUEdEdAUEdAI..dTONE-2e3e4e5e6...........",
    "aNEW TAI LUE LETTER HIGH QAeLOW QAeHIGH KAfXAfNGAeLOW KAfXAfNGAeHIGH TSAfSAfYAeLOW TSAfSA",
    "fYAeHIGH TAfTHAfNAeLOW TAfTHAfNAeHIGH PAfPHAfMAeLOW PAfPHAfMAeHIGH FAfVAfLAeLOW FAfVAfLA",
    "eHIGH HAfDAfBAeLOW HAfDAfBAeHIGH KVAfXVAeLOW KVAfXVAeHIGH SUAeLOW SUA....",
    "dVOWEL SIGN VOWEL SHORTENERfAAfIIfUfUUfEfAEfOfOAfUEfAYfAAYfUYfOYfOAYfUEYfIYdLETTER FINAL V",
    "fNGfNfMfKfDfBdTONE MARK-1f2......dDIGIT ZEROeONEeTWOeTHREEeFOUReFIVEeSIXeSEVENeEIGHTeNINE",
    "dTHAM DIGIT ONE...dSIGN LAEeLAEVaKHMER SYMBOL PATHAMASATcMUOY KOETcPII KOETcBEI KOET",
    "cBUON KOETcPRAM KOETcPRAM-MUOY KOETdPII KOETdBEI KOETdBUON KOETcDAP KOETcDAP-MUOY KOET",
    "dPII KOETdBEI KOETdBUON KOETdPRAM KOETcTUTEYASATcMUOY ROCcPII ROCcBEI ROCcBUON ROCcPRAM ROC",
    "cPRAM-MUOY ROCdPII ROCdBEI ROCdBUON ROCcDAP ROCcDAP-MUOY ROCdPII ROCdBEI ROCdBUON ROC",
    "dPRAM ROC"]⟩,
  ⟨0x1A00, [
    "aBUGINESE LETTER KAcGAcNGAcNGKAcPAcBAcMAcMPAcTAcDAcNAcNRAcCAcJAcNYAcNYCAcYAcRAcLAcVAcSAcA",
    "cHAbVOWEL SIGN IdUdEdOdAE..bPALLAWAbEND OF SECTIONaTAI THAM LETTER HIGH KAeKHAeKXAdLOW KA",
    "eKXAeKHAdNGAdHIGH CAeCHAdLOW CAeSAeCHAdNYAdRATAdHIGH RATHAdDAdLOW RATHAdRANAdHIGH TAeTHA",
    "dLOW TAeTHAdNAdBAdHIGH PAePHAeFAdLOW PAeFAePHAdMAdLOW YAdHIGH YAdRAdRUEdLAdLUEdWAdHIGH SHA",
    "eSSAeSAeHAdLLAdAdLOW HAdIdIIdUdUUdEEdOOdLAEdGREAT SAcCONSONANT SIGN MEDIAL RAfLA",
    "eLA TANG LAIcSIGN MAI KANG LAIcCONSONANT SIGN FINAL NGAeLOW PAeHIGH RATHA OR LOW PAeMAeBA",
    "eSA.cSIGN SAKOTcVOWEL SIGN AeMAI SATeAAeTALL AAeIeIIeUEeUUEeUeUUeOeOA BELOWeOYeEeAEeOOeAI",
    "eTHAM AIeOA ABOVEcSIGN MAI KANGdTONE-1e2dKHUEN TONE-3f4f5dRA HAAMdMAI SAMdKHUEN-LUE KARAN..",
    "cCOMBINING CRYPTOGRAMMIC DOTcHORA DIGIT ZEROeONEeTWOeTHREEeFOUReFIVEeSIXeSEVENeEIGHTeNINE..",
    "....cTHAM DIGIT ZEROeONEeTWOeTHREEeFOUReFIVEeSIXeSEVENeEIGHTeNINE......cSIGN WIANG",
    "dWIANGWAAKdSAWANdKEOWdHOYdDOKMAIdREVERSED ROTATED RANAdMAI YAMOKdKAANdKAANKUUdSATKAAN",
    "dSATKAANKUUdHANGdCAANG..aCOMBINING DOUBLED CIRCUMFLEX ACCENTbDIAERESIS-RINGbINFINITY",
    "bDOWNWARDS ARROWbTRIPLE DOTbX-X BELOWbWIGGLY LINE BELOWbOPEN MARK BELOW",
    "bDOUBLE OPEN MARK BELOWbLIGHT CENTRALIZATION STROKE BELOW",
    "bSTRONG CENTRALIZATION STROKE BELOWbPARENTHESES ABOVEbDOUBLE PARENTHESES ABOVE",
    "bPARENTHESES BELOWcOVERLAYbLATIN SMALL LETTER W BELOWeTURNED W BELOW",
    "bLEFT PARENTHESIS ABOVE LEFTbRIGHT PARENTHESIS ABOVE RIGHTbLEFT PARENTHESIS BELOW LEFT",
    "bRIGHT PARENTHESIS BELOW RIGHTbSQUARE BRACKETS ABOVEbNUMBER SIGN ABOVE",
    "bINVERTED DOUBLE ARCH ABOVEbPLUS SIGN ABOVEbDOUBLE PLUS SIGN ABOVEeBELOW",
    "bTRIPLE ACUTE ACCENTbLATIN SMALL LETTER INSULAR GfRfT"]⟩,
  ⟨0x1B00, [
    "aBALINESE SIGN ULU RICEMdCANDRAcCECEKcSURANGcBISAHbLETTER AKARAcAKARA TEDUNGcIKARA",
    "cIKARA TEDUNGcUKARAcUKARA TEDUNGcRA REPAdREPA TEDUNGcLA LENGAdLENGA TEDUNGcEKARAcAIKARA",
    "cOKARAcOKARA TEDUNGcKAcKA MAHAPRANAcGAcGA GORAcNGAcCAcCA LACAcJAcJA JERAcNYAcTA LATIK",
    "dMURDA MAHAPRANAcDA MURDA ALPAPRANAeMAHAPRANAcNA RAMBATcTAcTA TAWAcDAcDA MADUcNAcPA",
    "cPA KAPALcBAcBA KEMBANGcMAcYAcRAcLAcWAcSA SAGAdSAPAcSAcHAbSIGN REREKANbVOWEL SIGN TEDUNG",
    "dULUdULU SARIdSUKUdSUKU ILUTdRA REPAeREPA TEDUNGdLA LENGAeLENGA TEDUNGdTALINGdTALING REPA",
    "eTEDUNGeREPA TEDUNGdPEPETdPEPET TEDUNGbADEG ADEGbLETTER KAF SASAKcKHOT SASAKcTZIR SASAK",
    "cEF SASAKcVE SASAKcZAL SASAKcASYURA SASAKcARCHAIC JNYA...bDIGIT ZEROcONEcTWOcTHREEcFOUR",
    "cFIVEcSIXcSEVENcEIGHTcNINEbPANTIbPAMADAbWINDUbCARIK PAMUNGKAHcSIKIcPARERENbPAMENENG",
    "bMUSICAL SYMBOL DONGdDENGdDUNGdDANGdDANG SURANGdDINGdDAENGdDEUNGdDAINGdDANG GEDE",
    "dCOMBINING TEGEHeENDEPeKEMPULeKEMPLIeJEGOGANeKEMPUL WITH JEGOGANeKEMPLI WITH JEGOGANeBENDE",
    "eGONGdRIGHT-HAND OPEN DUGgDAGfCLOSED TUKgTAKdLEFT-HAND OPEN PANGgPUNGfCLOSED PLAKgPLUK",
    "fOPEN PINGbPANTI LANTANGbPAMADA LANTANG.aSUNDANESE SIGN PANYECEKcPANGLAYARcPANGWISAD",
    "bLETTER AcIcUcAEcOcEcEUcKAcQAcGAcNGAcCAcJAcZAcNYAcTAcDAcNAcPAcFAcVAcBAcMAcYAcRAcLAcWAcSAcXA",
    "cHAbCONSONANT SIGN PAMINGKALdPANYAKRAdPANYIKUbVOWEL SIGN PANGHULUdPANYUKUdPANAELAENG",
    "dPANOLONGdPAMEPETdPANEULEUNGbSIGN PAMAAEHcVIRAMAbCONSONANT SIGN PASANGAN MAeWAbLETTER KHA",
    "cSYAbDIGIT ZEROcONEcTWOcTHREEcFOURcFIVEcSIXcSEVENcEIGHTcNINEbAVAGRAHAbLETTER REUcLEUcBHA",
    "cFINAL KdMaBATAK LETTER AcSIMALUNGUN AcHAcSIMALUNGUN HAcMANDAILING HAcBAcKARO BAcPA",
    "cSIMALUNGUN PAcNAcMANDAILING NAcWAcSIMALUNGUN WAcPAKPAK WAcGAcSIMALUNGUN GAcJAcDAcRA",
    "cSIMALUNGUN RAcMAcSIMALUNGUN MAcSOUTHERN TAcNORTHERN TAcSAcSIMALUNGUN SAcMANDAILING SAcYA",
    "cSIMALUNGUN YAcNGAcLAcSIMALUNGUN LAcNYAcCAcNDAcMBAcIcUbSIGN TOMPIbVOWEL SIGN EdPAKPAK EdEE",
    "dIdKARO IdOdKARO OdUdU FOR SIMALUNGUN SAbCONSONANT SIGN NGdHbPANGOLATbPANONGONAN........",
    "bSYMBOL BINDU NA METEKdPINARBORASdJUDULdPANGOLAT"]⟩,
  ⟨0x1C00, [
    "aLEPCHA LETTER KAcKLAcKHAcGAcGLAcNGAcCAcCHAcJAcNYAcTAcTHAcDAcNAcPAcPLAcPHAcFAcFLAcBAcBLAcMA",
    "cMLAcTSAcTSHAcDZAcYAcRAcLAcHAcHLAcVAcSAcSHAcWAcAbSUBJOINED LETTER YAdRAbVOWEL SIGN AAdIdO",
    "dOOdUdUUdEbCONSONANT SIGN KdMdLdNdPdRdTdNYIN-DOdKANGbSIGN RANcNUKTA...bPUNCTUATION TA-ROL",
    "cNYET THYOOM TA-ROLcCER-WAcTSHOOK CER-WAcTSHOOKbDIGIT ZEROcONEcTWOcTHREEcFOURcFIVEcSIX",
    "cSEVENcEIGHTcNINE...bLETTER TTAcTTHAcDDAaOL CHIKI DIGIT ZEROdONEdTWOdTHREEdFOURdFIVEdSIX",
    "dSEVENdEIGHTdNINEcLETTER LAdATdAGdANGdALdLAAdAAKdAAJdAAMdAAWdLIdISdIHdINYdIRdLUdUCdUDdUNN",
    "dUYdLEdEPdEDDdENdERRdLOdOTTdOBdOVdOHcMU TTUDDAGcGAAHLAA TTUDDAAGcMU-GAAHLAA TTUDDAAGcRELAA",
    "cPHAARKAAcAHADcPUNCTUATION MUCAADdDOUBLE MUCAADaCYRILLIC SMALL LETTER ROUNDED VE",
    "dLONG-LEGGED DEdNARROW OdWIDE ESdTALL TEdTHREE-LEGGED TEdTALL HARD SIGNeYATdUNBLENDED UK...",
    "....aGEORGIAN MTAVRULI CAPITAL LETTER ANeBANeGANeDONeENeVINeZENeTANeINeKANeLASeMANeNAReON",
    "ePAReZHAReRAEeSANeTAReUNePHAReKHAReGHANeQAReSHINeCHINeCANeJILeCILeCHAReXANeJHANeHAEeHEeHIE",
    "eWEeHAReHOEeFIeYNeELIFIeTURNED GANeAIN..eAENeHARD SIGNeLABIAL SIGN",
    "aSUNDANESE PUNCTUATION BINDU SURYAdPANGLONGdPURNAMAdCAKRAdLEU SATANGAdKA SATANGAdDA SATANGA",
    "dBA SATANGA........aVEDIC TONE KARSHANAcSHARAcPRENKHAbSIGN NIHSHVASA",
    "cYAJURVEDIC MIDLINE SVARITAbTONE YAJURVEDIC AGGRAVATED INDEPENDENT SVARITA",
    "dINDEPENDENT SVARITAdKATHAKA INDEPENDENT SVARITAcCANDRA BELOW",
    "cYAJURVEDIC KATHAKA INDEPENDENT SVARITA SCHROEDERcDOUBLE SVARITAcTRIPLE SVARITA",
    "cKATHAKA ANUDATTAcDOT BELOWcTWO DOTS BELOWcTHREE DOTS BELOW",
    "cRIGVEDIC KASHMIRI INDEPENDENT SVARITAcATHARVAVEDIC INDEPENDENT SVARITA",
    "bSIGN VISARGA SVARITAdUDATTAcREVERSED VISARGA UDATTAcVISARGA ANUDATTA",
    "cREVERSED VISARGA ANUDATTAcVISARGA UDATTA WITH TAILdANUDATTA WITH TAIL",
    "cANUSVARA ANTARGOMUKHAdBAHIRGOMUKHAdVAMAGOMUKHAdVAMAGOMUKHA WITH TAILcTIRYAK",
    "cHEXIFORM LONG ANUSVARAcLONG ANUSVARAcRTHANG LONG ANUSVARAcANUSVARA UBHAYATO MUKHA",
    "cARDHAVISARGAcROTATED ARDHAVISARGAbTONE CANDRA ABOVEbSIGN JIHVAMULIYAcUPADHMANIYAcATIKRAMA",
    "bTONE RING ABOVEcDOUBLE RING ABOVEbSIGN DOUBLE ANUSVARA ANTARGOMUKHA"]⟩,
  ⟨0x1D00, [
    "aLATIN LETTER SMALL CAPITAL AeAEbSMALL LETTER TURNED AEbLETTER SMALL CAPITAL BARRED BeCeD",
    "eETHeEbSMALL LETTER TURNED OPEN EeIbLETTER SMALL CAPITAL JeKeL WITH STROKEeMeREVERSED NeO",
    "eOPEN ObSMALL LETTER SIDEWAYS OeOPEN OeO WITH STROKEdTURNED OEbLETTER SMALL CAPITAL OU",
    "bSMALL LETTER TOP HALF OdBOTTOM HALF ObLETTER SMALL CAPITAL PeREVERSED ReTURNED ReTeU",
    "bSMALL LETTER SIDEWAYS UeDIAERESIZED UeTURNED MbLETTER SMALL CAPITAL VeWeZeEZH",
    "cVOICED LARYNGEAL SPIRANTcAINaGREEK LETTER SMALL CAPITAL GAMMAeLAMDAePIeRHOePSI",
    "aCYRILLIC LETTER SMALL CAPITAL ELaMODIFIER LETTER CAPITAL AdAEdBdBARRED BdDdEdREVERSED EdG",
    "dHdIdJdKdLdMdNdREVERSED NdOdOUdPdRdTdUdWcSMALL AdTURNED AdALPHAdTURNED AEdBdDdEdSCHWA",
    "dOPEN EdTURNED OPEN EdGdTURNED IdKdMdENGdOdOPEN OdTOP HALF OdBOTTOM HALF OdPdTdUdSIDEWAYS U",
    "dTURNED MdVdAINdBETAdGREEK GAMMAdDELTAdGREEK PHIdCHIaLATIN SUBSCRIPT SMALL LETTER IeReUeV",
    "aGREEK SUBSCRIPT SMALL LETTER BETAeGAMMAeRHOePHIeCHIaLATIN SMALL LETTER UE",
    "dB WITH MIDDLE TILDEdD WITH MIDDLE TILDEdF WITH MIDDLE TILDEdM WITH MIDDLE TILDE",
    "dN WITH MIDDLE TILDEdP WITH MIDDLE TILDEdR WITH MIDDLE TILDEfFISHHOOK AND MIDDLE TILDE",
    "dS WITH MIDDLE TILDEdT WITH MIDDLE TILDEdZ WITH MIDDLE TILDEdTURNED G",
    "aMODIFIER LETTER CYRILLIC ENaLATIN SMALL LETTER INSULAR GdTH WITH STRIKETHROUGH",
    "cCAPITAL LETTER I WITH STROKEcLETTER IOTA WITH STROKEdP WITH STROKE",
    "cCAPITAL LETTER U WITH STROKEcLETTER UPSILON WITH STROKEdB WITH PALATAL HOOK",
    "dD WITH PALATAL HOOKdF WITH PALATAL HOOKdG WITH PALATAL HOOKdK WITH PALATAL HOOK",
    "dL WITH PALATAL HOOKdM WITH PALATAL HOOKdN WITH PALATAL HOOKdP WITH PALATAL HOOK",
    "dR WITH PALATAL HOOKdS WITH PALATAL HOOKdESH WITH PALATAL HOOKdV WITH PALATAL HOOK",
    "dX WITH PALATAL HOOKdZ WITH PALATAL HOOKdA WITH RETROFLEX HOOKdALPHA WITH RETROFLEX HOOK",
    "dD WITH HOOK AND TAILdE WITH RETROFLEX HOOKdOPEN E WITH RETROFLEX HOOK",
    "dREVERSED OPEN E WITH RETROFLEX HOOKdSCHWA WITH RETROFLEX HOOKdI WITH RETROFLEX HOOK",
    "dOPEN O WITH RETROFLEX HOOKdESH WITH RETROFLEX HOOKdU WITH RETROFLEX HOOK",
    "dEZH WITH RETROFLEX HOOKaMODIFIER LETTER SMALL TURNED ALPHAdCdC WITH CURLdETH",
    "dREVERSED OPEN EdFdDOTLESS J WITH STROKEdSCRIPT GdTURNED HdI WITH STROKEdIOTAdCAPITAL I",
    "eI WITH STROKEdJ WITH CROSSED-TAILdL WITH RETROFLEX HOOKfPALATAL HOOKdCAPITAL LdM WITH HOOK",
    "dTURNED M WITH LONG LEGdN WITH LEFT HOOKfRETROFLEX HOOKdCAPITAL NdBARRED OdPHIdS WITH HOOK",
    "dESHdT WITH PALATAL HOOKdU BARdUPSILONdCAPITAL UdV WITH HOOKdTURNED VdZ",
    "dZ WITH RETROFLEX HOOKfCURLdEZHdTHETAaCOMBINING DOTTED GRAVE ACCENTcACUTE ACCENT",
    "bSNAKE BELOWbSUSPENSION MARKbMACRON-ACUTEbGRAVE-MACRONbMACRON-GRAVEbACUTE-MACRON",
    "bGRAVE-ACUTE-GRAVEbACUTE-GRAVE-ACUTEbLATIN SMALL LETTER R BELOWbBREVE-MACRONbMACRON-BREVE",
    "bDOUBLE CIRCUMFLEX ABOVEbOGONEK ABOVEbZIGZAG BELOWbIS BELOWbUR ABOVEbUS ABOVE",
    "bLATIN SMALL LETTER FLATTENED OPEN A ABOVEeAEeAOeAVeC CEDILLAeINSULAR DeETHeG",
    "cLETTER SMALL CAPITAL GcSMALL LETTER KeLcLETTER SMALL CAPITAL LfMcSMALL LETTER N",
    "cLETTER SMALL CAPITAL NfRcSMALL LETTER R ROTUNDAeSeLONG SeZeALPHAeBeBETAeSCHWAeF",
    "eL WITH DOUBLE MIDDLE TILDEeO WITH LIGHT CENTRALIZATION STROKEePeESH",
    "eU WITH LIGHT CENTRALIZATION STROKEeWeA WITH DIAERESISeO WITH DIAERESISeU WITH DIAERESIS",
    "bUP TACK ABOVEbKAVYKA ABOVE RIGHTdLEFTbDOT ABOVE LEFTbWIDE INVERTED BRIDGE BELOW",
    "bDOT BELOW LEFTbDELETION MARKbDOUBLE INVERTED BREVE BELOWbALMOST EQUAL TO BELOW",
    "bLEFT ARROWHEAD ABOVEbRIGHT ARROWHEAD AND DOWN ARROWHEAD BELOW"]⟩,
  ⟨0x1E00, [
    "aLATIN CAPITAL LETTER A WITH RING BELOWbSMALL LETTER A WITH RING BELOW",
    "bCAPITAL LETTER B WITH DOT ABOVEbSMALL LETTER B WITH DOT ABOVE",
    "bCAPITAL LETTER B WITH DOT BELOWbSMALL LETTER B WITH DOT BELOW",
    "bCAPITAL LETTER B WITH LINE BELOWbSMALL LETTER B WITH LINE BELOW",
    "bCAPITAL LETTER C WITH CEDILLA AND ACUTEbSMALL LETTER C WITH CEDILLA AND ACUTE",
    "bCAPITAL LETTER D WITH DOT ABOVEbSMALL LETTER D WITH DOT ABOVE",
    "bCAPITAL LETTER D WITH DOT BELOWbSMALL LETTER D WITH DOT BELOW",
    "bCAPITAL LETTER D WITH LINE BELOWbSMALL LETTER D WITH LINE BELOW",
    "bCAPITAL LETTER D WITH CEDILLAbSMALL LETTER D WITH CEDILLA",
    "bCAPITAL LETTER D WITH CIRCUMFLEX BELOWbSMALL LETTER D WITH CIRCUMFLEX BELOW",
    "bCAPITAL LETTER E WITH MACRON AND GRAVEbSMALL LETTER E WITH MACRON AND GRAVE",
    "bCAPITAL LETTER E WITH MACRON AND ACUTEbSMALL LETTER E WITH MACRON AND ACUTE",
    "bCAPITAL LETTER E WITH CIRCUMFLEX BELOWbSMALL LETTER E WITH CIRCUMFLEX BELOW",
    "bCAPITAL LETTER E WITH TILDE BELOWbSMALL LETTER E WITH TILDE BELOW",
    "bCAPITAL LETTER E WITH CEDILLA AND BREVEbSMALL LETTER E WITH CEDILLA AND BREVE",
    "bCAPITAL LETTER F WITH DOT ABOVEbSMALL LETTER F WITH DOT ABOVEbCAPITAL LETTER G WITH MACRON",
    "bSMALL LETTER G WITH MACRONbCAPITAL LETTER H WITH DOT ABOVEbSMALL LETTER H WITH DOT ABOVE",
    "bCAPITAL LETTER H WITH DOT BELOWbSMALL LETTER H WITH DOT BELOW",
    "bCAPITAL LETTER H WITH DIAERESISbSMALL LETTER H WITH DIAERESIS",
    "bCAPITAL LETTER H WITH CEDILLAbSMALL LETTER H WITH CEDILLA",
    "bCAPITAL LETTER H WITH BREVE BELOWbSMALL LETTER H WITH BREVE BELOW",
    "bCAPITAL LETTER I WITH TILDE BELOWbSMALL LETTER I WITH TILDE BELOW",
    "bCAPITAL LETTER I WITH DIAERESIS AND ACUTEbSMALL LETTER I WITH DIAERESIS AND ACUTE",
    "bCAPITAL LETTER K WITH ACUTEbSMALL LETTER K WITH ACUTEbCAPITAL LETTER K WITH DOT BELOW",
    "bSMALL LETTER K WITH DOT BELOWbCAPITAL LETTER K WITH LINE BELOW",
    "bSMALL LETTER K WITH LINE BELOWbCAPITAL LETTER L WITH DOT BELOW",
    "bSMALL LETTER L WITH DOT BELOWbCAPITAL LETTER L WITH DOT BELOW AND MACRON",
    "bSMALL LETTER L WITH DOT BELOW AND MACRONbCAPITAL LETTER L WITH LINE BELOW",
    "bSMALL LETTER L WITH LINE BELOWbCAPITAL LETTER L WITH CIRCUMFLEX BELOW",
    "bSMALL LETTER L WITH CIRCUMFLEX BELOWbCAPITAL LETTER M WITH ACUTEbSMALL LETTER M WITH ACUTE",
    "bCAPITAL LETTER M WITH DOT ABOVEbSMALL LETTER M WITH DOT ABOVE",
    "bCAPITAL LETTER M WITH DOT BELOWbSMALL LETTER M WITH DOT BELOW",
    "bCAPITAL LETTER N WITH DOT ABOVEbSMALL LETTER N WITH DOT ABOVE",
    "bCAPITAL LETTER N WITH DOT BELOWbSMALL LETTER N WITH DOT BELOW",
    "bCAPITAL LETTER N WITH LINE BELOWbSMALL LETTER N WITH LINE BELOW",
    "bCAPITAL LETTER N WITH CIRCUMFLEX BELOWbSMALL LETTER N WITH CIRCUMFLEX BELOW",
    "bCAPITAL LETTER O WITH TILDE AND ACUTEbSMALL LETTER O WITH TILDE AND ACUTE",
    "bCAPITAL LETTER O WITH TILDE AND DIAERESISbSMALL LETTER O WITH TILDE AND DIAERESIS",
    "bCAPITAL LETTER O WITH MACRON AND GRAVEbSMALL LETTER O WITH MACRON AND GRAVE",
    "bCAPITAL LETTER O WITH MACRON AND ACUTEbSMALL LETTER O WITH MACRON AND ACUTE",
    "bCAPITAL LETTER P WITH ACUTEbSMALL LETTER P WITH ACUTEbCAPITAL LETTER P WITH DOT ABOVE",
    "bSMALL LETTER P WITH DOT ABOVEbCAPITAL LETTER R WITH DOT ABOVE",
    "bSMALL LETTER R WITH DOT ABOVEbCAPITAL LETTER R WITH DOT BELOW",
    "bSMALL LETTER R WITH DOT BELOWbCAPITAL LETTER R WITH DOT BELOW AND MACRON",
    "bSMALL LETTER R WITH DOT BELOW AND MACRONbCAPITAL LETTER R WITH LINE BELOW",
    "bSMALL LETTER R WITH LINE BELOWbCAPITAL LETTER S WITH DOT ABOVE",
    "bSMALL LETTER S WITH DOT ABOVEbCAPITAL LETTER S WITH DOT BELOW",
    "bSMALL LETTER S WITH DOT BELOWbCAPITAL LETTER S WITH ACUTE AND DOT ABOVE",
    "bSMALL LETTER S WITH ACUTE AND DOT ABOVEbCAPITAL LETTER S WITH CARON AND DOT ABOVE",
    "bSMALL LETTER S WITH CARON AND DOT ABOVEbCAPITAL LETTER S WITH DOT BELOW AND DOT ABOVE",
    "bSMALL LETTER S WITH DOT BELOW AND DOT ABOVEbCAPITAL LETTER T WITH DOT ABOVE",
    "bSMALL LETTER T WITH DOT ABOVEbCAPITAL LETTER T WITH DOT BELOW",
    "bSMALL LETTER T WITH DOT BELOWbCAPITAL LETTER T WITH LINE BELOW",
    "bSMALL LETTER T WITH LINE BELOWbCAPITAL LETTER T WITH CIRCUMFLEX BELOW",
    "bSMALL LETTER T WITH CIRCUMFLEX BELOWbCAPITAL LETTER U WITH DIAERESIS BELOW",
    "bSMALL LETTER U WITH DIAERESIS BELOWbCAPITAL LETTER U WITH TILDE BELOW",
    "bSMALL LETTER U WITH TILDE BELOWbCAPITAL LETTER U WITH CIRCUMFLEX BELOW",
    "bSMALL LETTER U WITH CIRCUMFLEX BELOWbCAPITAL LETTER U WITH TILDE AND ACUTE",
    "bSMALL LETTER U WITH TILDE AND ACUTEbCAPITAL LETTER U WITH MACRON AND DIAERESIS",
    "bSMALL LETTER U WITH MACRON AND DIAERESISbCAPITAL LETTER V WITH TILDE",
    "bSMALL LETTER V WITH TILDEbCAPITAL LETTER V WITH DOT BELOWbSMALL LETTER V WITH DOT BELOW",
    "bCAPITAL LETTER W WITH GRAVEbSMALL LETTER W WITH GRAVEbCAPITAL LETTER W WITH ACUTE",
    "bSMALL LETTER W WITH ACUTEbCAPITAL LETTER W WITH DIAERESISbSMALL LETTER W WITH DIAERESIS",
    "bCAPITAL LETTER W WITH DOT ABOVEbSMALL LETTER W WITH DOT ABOVE",
    "bCAPITAL LETTER W WITH DOT BELOWbSMALL LETTER W WITH DOT BELOW",
    "bCAPITAL LETTER X WITH DOT ABOVEbSMALL LETTER X WITH DOT ABOVE",
    "bCAPITAL LETTER X WITH DIAERESISbSMALL LETTER X WITH DIAERESIS",
    "bCAPITAL LETTER Y WITH DOT ABOVEbSMALL LETTER Y WITH DOT ABOVE",
    "bCAPITAL LETTER Z WITH CIRCUMFLEXbSMALL LETTER Z WITH CIRCUMFLEX",
    "bCAPITAL LETTER Z WITH DOT BELOWbSMALL LETTER Z WITH DOT BELOW",
    "bCAPITAL LETTER Z WITH LINE BELOWbSMALL LETTER Z WITH LINE BELOWdH WITH LINE BELOW",
    "dT WITH DIAERESISdW WITH RING ABOVEdY WITH RING ABOVEdA WITH RIGHT HALF RING",
    "dLONG S WITH DOT ABOVEgDIAGONAL STROKEgHIGH STROKEbCAPITAL LETTER SHARP S",
    "bSMALL LETTER DELTAbCAPITAL LETTER A WITH DOT BELOWbSMALL LETTER A WITH DOT BELOW",
    "bCAPITAL LETTER A WITH HOOK ABOVEbSMALL LETTER A WITH HOOK ABOVE",
    "bCAPITAL LETTER A WITH CIRCUMFLEX AND ACUTEbSMALL LETTER A WITH CIRCUMFLEX AND ACUTE",
    "bCAPITAL LETTER A WITH CIRCUMFLEX AND GRAVEbSMALL LETTER A WITH CIRCUMFLEX AND GRAVE",
    "bCAPITAL LETTER A WITH CIRCUMFLEX AND HOOK ABOVE",
    "bSMALL LETTER A WITH CIRCUMFLEX AND HOOK ABOVEbCAPITAL LETTER A WITH CIRCUMFLEX AND TILDE",
    "bSMALL LETTER A WITH CIRCUMFLEX AND TILDEbCAPITAL LETTER A WITH CIRCUMFLEX AND DOT BELOW",
    "bSMALL LETTER A WITH CIRCUMFLEX AND DOT BELOWbCAPITAL LETTER A WITH BREVE AND ACUTE",
    "bSMALL LETTER A WITH BREVE AND ACUTEbCAPITAL LETTER A WITH BREVE AND GRAVE",
    "bSMALL LETTER A WITH BREVE AND GRAVEbCAPITAL LETTER A WITH BREVE AND HOOK ABOVE",
    "bSMALL LETTER A WITH BREVE AND HOOK ABOVEbCAPITAL LETTER A WITH BREVE AND TILDE",
    "bSMALL LETTER A WITH BREVE AND TILDEbCAPITAL LETTER A WITH BREVE AND DOT BELOW",
    "bSMALL LETTER A WITH BREVE AND DOT BELOWbCAPITAL LETTER E WITH DOT BELOW",
    "bSMALL LETTER E WITH DOT BELOWbCAPITAL LETTER E WITH HOOK ABOVE",
    "bSMALL LETTER E WITH HOOK ABOVEbCAPITAL LETTER E WITH TILDEbSMALL LETTER E WITH TILDE",
    "bCAPITAL LETTER E WITH CIRCUMFLEX AND ACUTEbSMALL LETTER E WITH CIRCUMFLEX AND ACUTE",
    "bCAPITAL LETTER E WITH CIRCUMFLEX AND GRAVEbSMALL LETTER E WITH CIRCUMFLEX AND GRAVE",
    "bCAPITAL LETTER E WITH CIRCUMFLEX AND HOOK ABOVE",
    "bSMALL LETTER E WITH CIRCUMFLEX AND HOOK ABOVEbCAPITAL LETTER E WITH CIRCUMFLEX AND TILDE",
    "bSMALL LETTER E WITH CIRCUMFLEX AND TILDEbCAPITAL LETTER E WITH CIRCUMFLEX AND DOT BELOW",
    "bSMALL LETTER E WITH CIRCUMFLEX AND DOT BELOWbCAPITAL LETTER I WITH HOOK ABOVE",
    "bSMALL LETTER I WITH HOOK ABOVEbCAPITAL LETTER I WITH DOT BELOW",
    "bSMALL LETTER I WITH DOT BELOWbCAPITAL LETTER O WITH DOT BELOW",
    "bSMALL LETTER O WITH DOT BELOWbCAPITAL LETTER O WITH HOOK ABOVE",
    "bSMALL LETTER O WITH HOOK ABOVEbCAPITAL LETTER O WITH CIRCUMFLEX AND ACUTE",
    "bSMALL LETTER O WITH CIRCUMFLEX AND ACUTEbCAPITAL LETTER O WITH CIRCUMFLEX AND GRAVE",
    "bSMALL LETTER O WITH CIRCUMFLEX AND GRAVEbCAPITAL LETTER O WITH CIRCUMFLEX AND HOOK ABOVE",
    "bSMALL LETTER O WITH CIRCUMFLEX AND HOOK ABOVEbCAPITAL LETTER O WITH CIRCUMFLEX AND TILDE",
    "bSMALL LETTER O WITH CIRCUMFLEX AND TILDEbCAPITAL LETTER O WITH CIRCUMFLEX AND DOT BELOW",
    "bSMALL LETTER O WITH CIRCUMFLEX AND DOT BELOWbCAPITAL LETTER O WITH HORN AND ACUTE",
    "bSMALL LETTER O WITH HORN AND ACUTEbCAPITAL LETTER O WITH HORN AND GRAVE",
    "bSMALL LETTER O WITH HORN AND GRAVEbCAPITAL LETTER O WITH HORN AND HOOK ABOVE",
    "bSMALL LETTER O WITH HORN AND HOOK ABOVEbCAPITAL LETTER O WITH HORN AND TILDE",
    "bSMALL LETTER O WITH HORN AND TILDEbCAPITAL LETTER O WITH HORN AND DOT BELOW",
    "bSMALL LETTER O WITH HORN AND DOT BELOWbCAPITAL LETTER U WITH DOT BELOW",
    "bSMALL LETTER U WITH DOT BELOWbCAPITAL LETTER U WITH HOOK ABOVE",
    "bSMALL LETTER U WITH HOOK ABOVEbCAPITAL LETTER U WITH HORN AND ACUTE",
    "bSMALL LETTER U WITH HORN AND ACUTEbCAPITAL LETTER U WITH HORN AND GRAVE",
    "bSMALL LETTER U WITH HORN AND GRAVEbCAPITAL LETTER U WITH HORN AND HOOK ABOVE",
    "bSMALL LETTER U WITH HORN AND HOOK ABOVEbCAPITAL LETTER U WITH HORN AND TILDE",
    "bSMALL LETTER U WITH HORN AND TILDEbCAPITAL LETTER U WITH HORN AND DOT BELOW",
    "bSMALL LETTER U WITH HORN AND DOT BELOWbCAPITAL LETTER Y WITH GRAVE",
    "bSMALL LETTER Y WITH GRAVEbCAPITAL LETTER Y WITH DOT BELOWbSMALL LETTER Y WITH DOT BELOW",
    "bCAPITAL LETTER Y WITH HOOK ABOVEbSMALL LETTER Y WITH HOOK ABOVE",
    "bCAPITAL LETTER Y WITH TILDEbSMALL LETTER Y WITH TILDEbCAPITAL LETTER MIDDLE-WELSH LL",
    "bSMALL LETTER MIDDLE-WELSH LLbCAPITAL LETTER MIDDLE-WELSH VbSMALL LETTER MIDDLE-WELSH V",
    "bCAPITAL LETTER Y WITH LOOPbSMALL LETTER Y WITH LOOP"]⟩,
  ⟨0x1F00, [
    "aGREEK SMALL LETTER ALPHA WITH PSILIfDASIAfPSILI AND VARIAfDASIA AND VARIAfPSILI AND OXIA",
    "fDASIA AND OXIAfPSILI AND PERISPOMENIfDASIA AND PERISPOMENIbCAPITAL LETTER ALPHA WITH PSILI",
    "fDASIAfPSILI AND VARIAfDASIA AND VARIAfPSILI AND OXIAfDASIA AND OXIAfPSILI AND PERISPOMENI",
    "fDASIA AND PERISPOMENIbSMALL LETTER EPSILON WITH PSILIfDASIAfPSILI AND VARIA",
    "fDASIA AND VARIAfPSILI AND OXIAfDASIA AND OXIA..bCAPITAL LETTER EPSILON WITH PSILIfDASIA",
    "fPSILI AND VARIAfDASIA AND VARIAfPSILI AND OXIAfDASIA AND OXIA..",
    "bSMALL LETTER ETA WITH PSILIfDASIAfPSILI AND VARIAfDASIA AND VARIAfPSILI AND OXIA",
    "fDASIA AND OXIAfPSILI AND PERISPOMENIfDASIA AND PERISPOMENIbCAPITAL LETTER ETA WITH PSILI",
    "fDASIAfPSILI AND VARIAfDASIA AND VARIAfPSILI AND OXIAfDASIA AND OXIAfPSILI AND PERISPOMENI",
    "fDASIA AND PERISPOMENIbSMALL LETTER IOTA WITH PSILIfDASIAfPSILI AND VARIAfDASIA AND VARIA",
    "fPSILI AND OXIAfDASIA AND OXIAfPSILI AND PERISPOMENIfDASIA AND PERISPOMENI",
    "bCAPITAL LETTER IOTA WITH PSILIfDASIAfPSILI AND VARIAfDASIA AND VARIAfPSILI AND OXIA",
    "fDASIA AND OXIAfPSILI AND PERISPOMENIfDASIA AND PERISPOMENIbSMALL LETTER OMICRON WITH PSILI",
    "fDASIAfPSILI AND VARIAfDASIA AND VARIAfPSILI AND OXIAfDASIA AND OXIA..",
    "bCAPITAL LETTER OMICRON WITH PSILIfDASIAfPSILI AND VARIAfDASIA AND VARIAfPSILI AND OXIA",
    "fDASIA AND OXIA..bSMALL LETTER UPSILON WITH PSILIfDASIAfPSILI AND VARIAfDASIA AND VARIA",
    "fPSILI AND OXIAfDASIA AND OXIAfPSILI AND PERISPOMENIfDASIA AND PERISPOMENI.",
    "bCAPITAL LETTER UPSILON WITH DASIA.fDASIA AND VARIA.hOXIA.hPERISPOMENI",
    "bSMALL LETTER OMEGA WITH PSILIfDASIAfPSILI AND VARIAfDASIA AND VARIAfPSILI AND OXIA",
    "fDASIA AND OXIAfPSILI AND PERISPOMENIfDASIA AND PERISPOMENIbCAPITAL LETTER OMEGA WITH PSILI",
    "fDASIAfPSILI AND VARIAfDASIA AND VARIAfPSILI AND OXIAfDASIA AND OXIAfPSILI AND PERISPOMENI",
    "fDASIA AND PERISPOMENIbSMALL LETTER ALPHA WITH VARIAfOXIAdEPSILON WITH VARIAfOXIA",
    "dETA WITH VARIAfOXIAdIOTA WITH VARIAfOXIAdOMICRON WITH VARIAfOXIAdUPSILON WITH VARIAfOXIA",
    "dOMEGA WITH VARIAfOXIA..dALPHA WITH PSILI AND YPOGEGRAMMENIfDASIA AND YPOGEGRAMMENI",
    "fPSILI AND VARIA AND YPOGEGRAMMENIfDASIA AND VARIA AND YPOGEGRAMMENI",
    "fPSILI AND OXIA AND YPOGEGRAMMENIfDASIA AND OXIA AND YPOGEGRAMMENI",
    "fPSILI AND PERISPOMENI AND YPOGEGRAMMENIfDASIA AND PERISPOMENI AND YPOGEGRAMMENI",
    "bCAPITAL LETTER ALPHA WITH PSILI AND PROSGEGRAMMENIfDASIA AND PROSGEGRAMMENI",
    "fPSILI AND VARIA AND PROSGEGRAMMENIfDASIA AND VARIA AND PROSGEGRAMMENI",
    "fPSILI AND OXIA AND PROSGEGRAMMENIfDASIA AND OXIA AND PROSGEGRAMMENI",
    "fPSILI AND PERISPOMENI AND PROSGEGRAMMENIfDASIA AND PERISPOMENI AND PROSGEGRAMMENI",
    "bSMALL LETTER ETA WITH PSILI AND YPOGEGRAMMENIfDASIA AND YPOGEGRAMMENI",
    "fPSILI AND VARIA AND YPOGEGRAMMENIfDASIA AND VARIA AND YPOGEGRAMMENI",
    "fPSILI AND OXIA AND YPOGEGRAMMENIfDASIA AND OXIA AND YPOGEGRAMMENI",
    "fPSILI AND PERISPOMENI AND YPOGEGRAMMENIfDASIA AND PERISPOMENI AND YPOGEGRAMMENI",
    "bCAPITAL LETTER ETA WITH PSILI AND PROSGEGRAMMENIfDASIA AND PROSGEGRAMMENI",
    "fPSILI AND VARIA AND PROSGEGRAMMENIfDASIA AND VARIA AND PROSGEGRAMMENI",
    "fPSILI AND OXIA AND PROSGEGRAMMENIfDASIA AND OXIA AND PROSGEGRAMMENI",
    "fPSILI AND PERISPOMENI AND PROSGEGRAMMENIfDASIA AND PERISPOMENI AND PROSGEGRAMMENI",
    "bSMALL LETTER OMEGA WITH PSILI AND YPOGEGRAMMENIfDASIA AND YPOGEGRAMMENI",
    "fPSILI AND VARIA AND YPOGEGRAMMENIfDASIA AND VARIA AND YPOGEGRAMMENI",
    "fPSILI AND OXIA AND YPOGEGRAMMENIfDASIA AND OXIA AND YPOGEGRAMMENI",
    "fPSILI AND PERISPOMENI AND YPOGEGRAMMENIfDASIA AND PERISPOMENI AND YPOGEGRAMMENI",
    "bCAPITAL LETTER OMEGA WITH PSILI AND PROSGEGRAMMENIfDASIA AND PROSGEGRAMMENI",
    "fPSILI AND VARIA AND PROSGEGRAMMENIfDASIA AND VARIA AND PROSGEGRAMMENI",
    "fPSILI AND OXIA AND PROSGEGRAMMENIfDASIA AND OXIA AND PROSGEGRAMMENI",
    "fPSILI AND PERISPOMENI AND PROSGEGRAMMENIfDASIA AND PERISPOMENI AND PROSGEGRAMMENI",
    "bSMALL LETTER ALPHA WITH VRACHYfMACRONfVARIA AND YPOGEGRAMMENIfYPOGEGRAMMENI",
    "fOXIA AND YPOGEGRAMMENI.fPERISPOMENIfPERISPOMENI AND YPOGEGRAMMENI",
    "bCAPITAL LETTER ALPHA WITH VRACHYfMACRONfVARIAfOXIAfPROSGEGRAMMENIbKORONISbPROSGEGRAMMENI",
    "bPSILIbPERISPOMENIbDIALYTIKA AND PERISPOMENIbSMALL LETTER ETA WITH VARIA AND YPOGEGRAMMENI",
    "fYPOGEGRAMMENIfOXIA AND YPOGEGRAMMENI.fPERISPOMENIfPERISPOMENI AND YPOGEGRAMMENI",
    "bCAPITAL LETTER EPSILON WITH VARIAfOXIAdETA WITH VARIAfOXIAfPROSGEGRAMMENIbPSILI AND VARIA",
    "dOXIAdPERISPOMENIbSMALL LETTER IOTA WITH VRACHYfMACRONfDIALYTIKA AND VARIAhOXIA..",
    "fPERISPOMENIfDIALYTIKA AND PERISPOMENIbCAPITAL LETTER IOTA WITH VRACHYfMACRONfVARIAfOXIA.",
    "bDASIA AND VARIAdOXIAdPERISPOMENIbSMALL LETTER UPSILON WITH VRACHYfMACRON",
    "fDIALYTIKA AND VARIAhOXIAdRHO WITH PSILIfDASIAdUPSILON WITH PERISPOMENI",
    "fDIALYTIKA AND PERISPOMENIbCAPITAL LETTER UPSILON WITH VRACHYfMACRONfVARIAfOXIA",
    "dRHO WITH DASIAbDIALYTIKA AND VARIAdOXIAbVARIA..",
    "bSMALL LETTER OMEGA WITH VARIA AND YPOGEGRAMMENIfYPOGEGRAMMENIfOXIA AND YPOGEGRAMMENI.",
    "fPERISPOMENIfPERISPOMENI AND YPOGEGRAMMENIbCAPITAL LETTER OMICRON WITH VARIAfOXIA",
    "dOMEGA WITH VARIAfOXIAfPROSGEGRAMMENIbOXIAbDASIA"]⟩]

end LogHarvest.Text.Table
