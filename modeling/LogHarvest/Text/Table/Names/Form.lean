import LogHarvest.Text.Table.NameRun

/-!
# Names: further scripts of Africa and Asia, and forms kept for other encodings
-/

namespace LogHarvest.Text.Table

def formNames : List NameRun := [
  ⟨0xA500, [
    "aVAI SYLLABLE EEcEENcHEEcWEEcWEENcPEEcBHEEcBEEcMBEEcKPEEcMGBEEcGBEEcFEEcVEEcTEEcTHEEcDHEE",
    "cDHHEEcLEEcREEcDEEcNDEEcSEEcSHEEcZEEcZHEEcCEEcJEEcNJEEcYEEcKEEcNGGEEcGEEcMEEcNEEcNYEEcIcIN",
    "cHIcHINcWIcWINcPIcBHIcBIcMBIcKPIcMGBIcGBIcFIcVIcTIcTHIcDHIcDHHIcLIcRIcDIcNDIcSIcSHIcZIcZHI",
    "cCIcJIcNJIcYIcKIcNGGIcGIcMIcNIcNYIcAcANcNGANcHAcHANcWAcWANcPAcBHAcBAcMBAcKPAcKPANcMGBAcGBA",
    "cFAcVAcTAcTHAcDHAcDHHAcLAcRAcDAcNDAcSAcSHAcZAcZHAcCAcJAcNJAcYAcKAcKANcNGGAcGAcMAcNAcNYAcOO",
    "cOONcHOOcWOOcWOONcPOOcBHOOcBOOcMBOOcKPOOcMGBOOcGBOOcFOOcVOOcTOOcTHOOcDHOOcDHHOOcLOOcROOcDOO",
    "cNDOOcSOOcSHOOcZOOcZHOOcCOOcJOOcNJOOcYOOcKOOcNGGOOcGOOcMOOcNOOcNYOOcUcUNcHUcHUNcWUcWUNcPU",
    "cBHUcBUcMBUcKPUcMGBUcGBUcFUcVUcTUcTHUcDHUcDHHUcLUcRUcDUcNDUcSUcSHUcZUcZHUcCUcJUcNJUcYUcKU",
    "cNGGUcGUcMUcNUcNYUcOcONcNGONcHOcHONcWOcWONcPOcBHOcBOcMBOcKPOcMGBOcGBOcGBONcFOcVOcTOcTHOcDHO",
    "cDHHOcLOcROcDOcNDOcSOcSHOcZOcZHOcCOcJOcNJOcYOcKOcNGGOcGOcMOcNOcNYOcEcENcNGENcHEcHENcWEcWEN",
    "cPEcBHEcBEcMBEcKPEcKPENcMGBEcGBEcGBENcFEcVEcTEcTHEcDHEcDHHEcLEcREcDEcNDEcSEcSHEcZEcZHEcCE"]⟩,
  ⟨0xA600, [
    "aVAI SYLLABLE JEcNJEcYEcKEcNGGEcNGGENcGEcGENcMEcNEcNYEcNGcLENGTHENERbCOMMAbFULL STOP",
    "bQUESTION MARKbSYLLABLE NDOLE FAdKAdSOObSYMBOL FEENGcKEENGcTINGcNIIcBANGcFAAcTAAcDANGcDOONG",
    "cKUNGcTONGcDO-OcJONGbDIGIT ZEROcONEcTWOcTHREEcFOURcFIVEcSIXcSEVENcEIGHTcNINE",
    "bSYLLABLE NDOLE MAdDO....................aCYRILLIC CAPITAL LETTER ZEMLYA",
    "bSMALL LETTER ZEMLYAbCAPITAL LETTER DZELObSMALL LETTER DZELObCAPITAL LETTER REVERSED DZE",
    "bSMALL LETTER REVERSED DZEbCAPITAL LETTER IOTAbSMALL LETTER IOTAbCAPITAL LETTER DJERV",
    "bSMALL LETTER DJERVbCAPITAL LETTER MONOGRAPH UKbSMALL LETTER MONOGRAPH UK",
    "bCAPITAL LETTER BROAD OMEGAbSMALL LETTER BROAD OMEGAbCAPITAL LETTER NEUTRAL YER",
    "bSMALL LETTER NEUTRAL YERbCAPITAL LETTER YERU WITH BACK YERbSMALL LETTER YERU WITH BACK YER",
    "bCAPITAL LETTER IOTIFIED YATbSMALL LETTER IOTIFIED YATbCAPITAL LETTER REVERSED YU",
    "bSMALL LETTER REVERSED YUbCAPITAL LETTER IOTIFIED AbSMALL LETTER IOTIFIED A",
    "bCAPITAL LETTER CLOSED LITTLE YUSbSMALL LETTER CLOSED LITTLE YUSbCAPITAL LETTER BLENDED YUS",
    "bSMALL LETTER BLENDED YUSbCAPITAL LETTER IOTIFIED CLOSED LITTLE YUS",
    "bSMALL LETTER IOTIFIED CLOSED LITTLE YUSbCAPITAL LETTER YNbSMALL LETTER YN",
    "bCAPITAL LETTER REVERSED TSEbSMALL LETTER REVERSED TSEbCAPITAL LETTER SOFT DE",
    "bSMALL LETTER SOFT DEbCAPITAL LETTER SOFT ELbSMALL LETTER SOFT ELbCAPITAL LETTER SOFT EM",
    "bSMALL LETTER SOFT EMbCAPITAL LETTER MONOCULAR ObSMALL LETTER MONOCULAR O",
    "bCAPITAL LETTER BINOCULAR ObSMALL LETTER BINOCULAR ObCAPITAL LETTER DOUBLE MONOCULAR O",
    "bSMALL LETTER DOUBLE MONOCULAR ObLETTER MULTIOCULAR OaCOMBINING CYRILLIC VZMET",
    "cTEN MILLIONS SIGNcHUNDRED MILLIONS SIGNcTHOUSAND MILLIONS SIGNaSLAVONIC ASTERISK",
    "aCOMBINING CYRILLIC LETTER UKRAINIAN IEdIdYIdUdHARD SIGNdYERUdSOFT SIGNdOMEGAcKAVYKA",
    "cPAYEROKaCYRILLIC KAVYKAbPAYEROKbCAPITAL LETTER DWEbSMALL LETTER DWEbCAPITAL LETTER DZWE",
    "bSMALL LETTER DZWEbCAPITAL LETTER ZHWEbSMALL LETTER ZHWEbCAPITAL LETTER CCHE",
    "bSMALL LETTER CCHEbCAPITAL LETTER DZZEbSMALL LETTER DZZEbCAPITAL LETTER TE WITH MIDDLE HOOK",
    "bSMALL LETTER TE WITH MIDDLE HOOKbCAPITAL LETTER TWEbSMALL LETTER TWEbCAPITAL LETTER TSWE",
    "bSMALL LETTER TSWEbCAPITAL LETTER TSSEbSMALL LETTER TSSEbCAPITAL LETTER TCHE",
    "bSMALL LETTER TCHEbCAPITAL LETTER HWEbSMALL LETTER HWEbCAPITAL LETTER SHWE",
    "bSMALL LETTER SHWEbCAPITAL LETTER DOUBLE ObSMALL LETTER DOUBLE ObCAPITAL LETTER CROSSED O",
    "bSMALL LETTER CROSSED OaMODIFIER LETTER CYRILLIC HARD SIGNdSOFT SIGN",
    "aCOMBINING CYRILLIC LETTER EFdIOTIFIED EaBAMUM LETTER AcKAcUcKUcEEcREEcTAEcOcNYIcIcLAcPA",
    "cRIIcRIEEcLEEEEcMEEEEcTAAcNDAAcNJAEMcMcSUUcMUcSHIIcSIcSHEUXcSEUXcKYEEcKETcNUAEcNUcNJUAEcYOQ",
    "cSHUcYUQcYAcNSHAcKEUXcPEUXcNJEEcNTEEcPUEcWUEcPEEcFEEcRUcLUcMIcNIcREUXcRAEcKENcNGKWAENcNGGA",
    "cNGAcSHOcPUAEcFUcFOMcWAcNAcLIcPIcLOQcKOcMBENcRENcMENcMAcTIcKIcMOcMBAAcTETcKPAcTENcNTUU",
    "cSAMBAcFAAMAEcKOVUUcKOGHOMbCOMBINING MARK KOQNDONdTUKWENTISbNJAEMLIbFULL STOPbCOLONbCOMMA",
    "bSEMICOLONbQUESTION MARK"]⟩,
  ⟨0xA700, [
    "aMODIFIER LETTER CHINESE TONE YIN PINGeYANG PINGeYIN SHANGeYANG SHANGeYIN QUeYANG QUeYIN RU",
    "eYANG RUcEXTRA-HIGH DOTTED TONE BARcHIGH DOTTED TONE BARcMID DOTTED TONE BAR",
    "cLOW DOTTED TONE BARcEXTRA-LOW DOTTED TONE BARdHIGH DOTTED LEFT-STEM TONE BAR",
    "cHIGH DOTTED LEFT-STEM TONE BARcMID DOTTED LEFT-STEM TONE BARcLOW DOTTED LEFT-STEM TONE BAR",
    "cEXTRA-LOW DOTTED LEFT-STEM TONE BARdHIGH LEFT-STEM TONE BARcHIGH LEFT-STEM TONE BAR",
    "cMID LEFT-STEM TONE BARcLOW LEFT-STEM TONE BARcEXTRA-LOW LEFT-STEM TONE BAR",
    "cDOT VERTICAL BARdSLASHdHORIZONTAL BARcLOWER RIGHT CORNER ANGLEcRAISED UP ARROWdDOWN ARROW",
    "dEXCLAMATION MARKdINVERTED EXCLAMATION MARKcLOW INVERTED EXCLAMATION MARK",
    "cSTRESS AND HIGH TONEeLOW TONEaLATIN CAPITAL LETTER EGYPTOLOGICAL ALEF",
    "bSMALL LETTER EGYPTOLOGICAL ALEFbCAPITAL LETTER EGYPTOLOGICAL AIN",
    "bSMALL LETTER EGYPTOLOGICAL AINbCAPITAL LETTER HENGbSMALL LETTER HENGbCAPITAL LETTER TZ",
    "bSMALL LETTER TZbCAPITAL LETTER TRESILLObSMALL LETTER TRESILLObCAPITAL LETTER CUATRILLO",
    "bSMALL LETTER CUATRILLObCAPITAL LETTER CUATRILLO WITH COMMA",
    "bSMALL LETTER CUATRILLO WITH COMMAbLETTER SMALL CAPITAL FeSbCAPITAL LETTER AA",
    "bSMALL LETTER AAbCAPITAL LETTER AObSMALL LETTER AObCAPITAL LETTER AUbSMALL LETTER AU",
    "bCAPITAL LETTER AVbSMALL LETTER AVbCAPITAL LETTER AV WITH HORIZONTAL BAR",
    "bSMALL LETTER AV WITH HORIZONTAL BARbCAPITAL LETTER AYbSMALL LETTER AY",
    "bCAPITAL LETTER REVERSED C WITH DOTbSMALL LETTER REVERSED C WITH DOT",
    "bCAPITAL LETTER K WITH STROKEbSMALL LETTER K WITH STROKE",
    "bCAPITAL LETTER K WITH DIAGONAL STROKEbSMALL LETTER K WITH DIAGONAL STROKE",
    "bCAPITAL LETTER K WITH STROKE AND DIAGONAL STROKE",
    "bSMALL LETTER K WITH STROKE AND DIAGONAL STROKEbCAPITAL LETTER BROKEN L",
    "bSMALL LETTER BROKEN LbCAPITAL LETTER L WITH HIGH STROKEbSMALL LETTER L WITH HIGH STROKE",
    "bCAPITAL LETTER O WITH LONG STROKE OVERLAYbSMALL LETTER O WITH LONG STROKE OVERLAY",
    "bCAPITAL LETTER O WITH LOOPbSMALL LETTER O WITH LOOPbCAPITAL LETTER OObSMALL LETTER OO",
    "bCAPITAL LETTER P WITH STROKE THROUGH DESCENDER",
    "bSMALL LETTER P WITH STROKE THROUGH DESCENDERbCAPITAL LETTER P WITH FLOURISH",
    "bSMALL LETTER P WITH FLOURISHbCAPITAL LETTER P WITH SQUIRREL TAIL",
    "bSMALL LETTER P WITH SQUIRREL TAILbCAPITAL LETTER Q WITH STROKE THROUGH DESCENDER",
    "bSMALL LETTER Q WITH STROKE THROUGH DESCENDERbCAPITAL LETTER Q WITH DIAGONAL STROKE",
    "bSMALL LETTER Q WITH DIAGONAL STROKEbCAPITAL LETTER R ROTUNDAbSMALL LETTER R ROTUNDA",
    "bCAPITAL LETTER RUM ROTUNDAbSMALL LETTER RUM ROTUNDAbCAPITAL LETTER V WITH DIAGONAL STROKE",
    "bSMALL LETTER V WITH DIAGONAL STROKEbCAPITAL LETTER VYbSMALL LETTER VY",
    "bCAPITAL LETTER VISIGOTHIC ZbSMALL LETTER VISIGOTHIC ZbCAPITAL LETTER THORN WITH STROKE",
    "bSMALL LETTER THORN WITH STROKEbCAPITAL LETTER THORN WITH STROKE THROUGH DESCENDER",
    "bSMALL LETTER THORN WITH STROKE THROUGH DESCENDERbCAPITAL LETTER VENDbSMALL LETTER VEND",
    "bCAPITAL LETTER ETbSMALL LETTER ETbCAPITAL LETTER ISbSMALL LETTER ISbCAPITAL LETTER CON",
    "bSMALL LETTER CONaMODIFIER LETTER USaLATIN SMALL LETTER DUMdLUMdMUMdNUMdRUM",
    "bLETTER SMALL CAPITAL RUMbSMALL LETTER TUMdUMbCAPITAL LETTER INSULAR D",
    "bSMALL LETTER INSULAR DbCAPITAL LETTER INSULAR FbSMALL LETTER INSULAR F",
    "bCAPITAL LETTER INSULAR GdTURNED INSULAR GbSMALL LETTER TURNED INSULAR G",
    "bCAPITAL LETTER TURNED LbSMALL LETTER TURNED LbCAPITAL LETTER INSULAR R",
    "bSMALL LETTER INSULAR RbCAPITAL LETTER INSULAR SbSMALL LETTER INSULAR S",
    "bCAPITAL LETTER INSULAR TbSMALL LETTER INSULAR TaMODIFIER LETTER LOW CIRCUMFLEX ACCENT",
    "cCOLONcSHORT EQUALS SIGNaLATIN CAPITAL LETTER SALTILLObSMALL LETTER SALTILLO",
    "bCAPITAL LETTER TURNED HbSMALL LETTER L WITH RETROFLEX HOOK AND BELTbLETTER SINOLOGICAL DOT",
    "bCAPITAL LETTER N WITH DESCENDERbSMALL LETTER N WITH DESCENDERbCAPITAL LETTER C WITH BAR",
    "bSMALL LETTER C WITH BARfPALATAL HOOKdH WITH PALATAL HOOKbCAPITAL LETTER B WITH FLOURISH",
    "bSMALL LETTER B WITH FLOURISHbCAPITAL LETTER F WITH STROKEbSMALL LETTER F WITH STROKE",
    "bCAPITAL LETTER VOLAPUK AEbSMALL LETTER VOLAPUK AEbCAPITAL LETTER VOLAPUK OE",
    "bSMALL LETTER VOLAPUK OEbCAPITAL LETTER VOLAPUK UEbSMALL LETTER VOLAPUK UE",
    "bCAPITAL LETTER G WITH OBLIQUE STROKEbSMALL LETTER G WITH OBLIQUE STROKE",
    "bCAPITAL LETTER K WITH OBLIQUE STROKEbSMALL LETTER K WITH OBLIQUE STROKE",
    "bCAPITAL LETTER N WITH OBLIQUE STROKEbSMALL LETTER N WITH OBLIQUE STROKE",
    "bCAPITAL LETTER R WITH OBLIQUE STROKEbSMALL LETTER R WITH OBLIQUE STROKE",
    "bCAPITAL LETTER S WITH OBLIQUE STROKEbSMALL LETTER S WITH OBLIQUE STROKE",
    "bCAPITAL LETTER H WITH HOOKdREVERSED OPEN EdSCRIPT GdL WITH BELTdSMALL CAPITAL I",
    "bLETTER SMALL CAPITAL QbCAPITAL LETTER TURNED KeTdJ WITH CROSSED-TAILdCHIdBETA",
    "bSMALL LETTER BETAbCAPITAL LETTER OMEGAbSMALL LETTER OMEGAbCAPITAL LETTER U WITH STROKE",
    "bSMALL LETTER U WITH STROKEbCAPITAL LETTER GLOTTAL AbSMALL LETTER GLOTTAL A",
    "bCAPITAL LETTER GLOTTAL IbSMALL LETTER GLOTTAL IbCAPITAL LETTER GLOTTAL U",
    "bSMALL LETTER GLOTTAL UbCAPITAL LETTER OLD POLISH ObSMALL LETTER OLD POLISH O",
    "bCAPITAL LETTER ANGLICANA WbSMALL LETTER ANGLICANA WbCAPITAL LETTER C WITH PALATAL HOOK",
    "dS WITH HOOKdZ WITH PALATAL HOOKdD WITH SHORT STROKE OVERLAY",
    "bSMALL LETTER D WITH SHORT STROKE OVERLAYbCAPITAL LETTER S WITH SHORT STROKE OVERLAY",
    "bSMALL LETTER S WITH SHORT STROKE OVERLAY.....bCAPITAL LETTER CLOSED INSULAR G",
    "bSMALL LETTER CLOSED INSULAR G.dDOUBLE THORN.eWYNNbCAPITAL LETTER MIDDLE SCOTS S",
    "bSMALL LETTER MIDDLE SCOTS SbCAPITAL LETTER SIGMOID SbSMALL LETTER SIGMOID S"]⟩,
  ⟨0xA7F2, [
    "aMODIFIER LETTER CAPITAL CdFdQaLATIN CAPITAL LETTER REVERSED HALF H",
    "bSMALL LETTER REVERSED HALF HbEPIGRAPHIC LETTER SIDEWAYS I",
    "aMODIFIER LETTER CAPITAL H WITH STROKEcSMALL LIGATURE OE",
    "aLATIN LETTER SMALL CAPITAL TURNED MbEPIGRAPHIC LETTER REVERSED FePdINVERTED MdI LONGA",
    "dARCHAIC M"]⟩,
  ⟨0xA800, [
    "aSYLOTI NAGRI LETTER AdIcSIGN DVISVARAcLETTER UdEdOcSIGN HASANTAcLETTER KOdKHOdGOdGHO",
    "cSIGN ANUSVARAcLETTER COdCHOdJOdJHOdTTOdTTHOdDDOdDDHOdTOdTHOdDOdDHOdNOdPOdPHOdBOdBHOdMOdRO",
    "dLOdRROdSOdHOcVOWEL SIGN AeIeUeEeOOcPOETRY MARK-1e2e3e4cSIGN ALTERNATE HASANTA...",
    "aNORTH INDIC FRACTION ONE QUARTEReHALFdTHREE QUARTERSdONE SIXTEENTHeEIGHTHdTHREE SIXTEENTHS",
    "cQUARTER MARKcPLACEHOLDER MARKcRUPEE MARKcQUANTITY MARK......aPHAGS-PA LETTER KAdKHAdGAdNGA",
    "dCAdCHAdJAdNYAdTAdTHAdDAdNAdPAdPHAdBAdMAdTSAdTSHAdDZAdWAdZHAdZAdSMALL AdYAdRAdLAdSHAdSAdHA",
    "dAdIdUdEdOdQAdXAdFAdGGAdEEcSUBJOINED LETTER WAeYAcLETTER TTAdTTHAdDDAdNNAdALTERNATE YA",
    "dVOICELESS SHAdVOICED HAdASPIRATED FAcSUBJOINED LETTER RAcSUPERFIXED LETTER RA",
    "cLETTER CANDRABINDUcSINGLE HEAD MARKcDOUBLE HEAD MARKcMARK SHADdDOUBLE SHAD........",
    "aSAURASHTRA SIGN ANUSVARAcVISARGAbLETTER AcAAcIcIIcUcUUcVOCALIC RdRRdLdLLcEcEEcAIcOcOOcAU",
    "cKAcKHAcGAcGHAcNGAcCAcCHAcJAcJHAcNYAcTTAcTTHAcDDAcDDHAcNNAcTAcTHAcDAcDHAcNAcPAcPHAcBAcBHA",
    "cMAcYAcRAcLAcVAcSHAcSSAcSAcHAcLLAbCONSONANT SIGN HAARUbVOWEL SIGN AAdIdIIdUdUUdVOCALIC ReRR",
    "eLeLLdEdEEdAIdOdOOdAUbSIGN VIRAMAcCANDRABINDU........bDANDAbDOUBLE DANDAbDIGIT ZEROcONEcTWO",
    "cTHREEcFOURcFIVEcSIXcSEVENcEIGHTcNINE......aCOMBINING DEVANAGARI DIGIT ZEROdONEdTWOdTHREE",
    "dFOURdFIVEdSIXdSEVENdEIGHTdNINEcLETTER AdUdKAdNAdPAdRAdVIcSIGN AVAGRAHA",
    "aDEVANAGARI SIGN SPACING CANDRABINDUcCANDRABINDU VIRAMAcDOUBLE CANDRABINDU VIRAMA",
    "cCANDRABINDU TWOdTHREEdAVAGRAHAcPUSHPIKAbGAP FILLERbCARETbHEADSTROKEbSIGN SIDDHAMbJAIN OM",
    "bLETTER AYbVOWEL SIGN AY"]⟩,
  ⟨0xA900, [
    "aKAYAH LI DIGIT ZEROdONEdTWOdTHREEdFOURdFIVEdSIXdSEVENdEIGHTdNINEcLETTER KAdKHAdGAdNGAdSA",
    "dSHAdZAdNYAdTAdHTAdNAdPAdPHAdMAdDAdBAdRAdYAdLAdWAdTHAdHAdVAdCAdAdOEdIdOOcVOWEL UEdEdUdEEdO",
    "cTONE PLOPHUdCALYAdCALYA PLOPHUcSIGN CWIdSHYAaREJANG LETTER KAcGAcNGAcTAcDAcNAcPAcBAcMAcCA",
    "cJAcNYAcSAcRAcLAcYAcWAcHAcMBAcNGGAcNDAcNYJAcAbVOWEL SIGN IdUdEdAIdOdAUdEUdEA",
    "bCONSONANT SIGN NGdNdRdHbVIRAMA...........bSECTION MARKaHANGUL CHOSEONG TIKEUT-MIEUMdPIEUP",
    "dSIOSdCIEUCcRIEUL-KIYEOKdSSANGKIYEOKdTIKEUTdSSANGTIKEUTdMIEUMdPIEUPdSSANGPIEUP",
    "dKAPYEOUNPIEUPdSIOSdCIEUCdKHIEUKHcMIEUM-KIYEOKdTIKEUTdSIOScPIEUP-SIOS-THIEUTHdKHIEUKHdHIEUH",
    "cSSANGSIOS-PIEUPcIEUNG-RIEULdHIEUHcSSANGCIEUC-HIEUHcSSANGTHIEUTHcPHIEUPH-HIEUHcHIEUH-SIOS",
    "cSSANGYEORINHIEUH...aJAVANESE SIGN PANYANGGAcCECAKcLAYARcWIGNYANbLETTER AcI KAWIcIcIIcU",
    "cPA CEREKcNGA LELETdLELET RASWADIcEcAIcOcKAcKA SASAKdMURDAcGAcGA MURDAcNGAcCAcCA MURDAcJA",
    "cNYA MURDAcJA MAHAPRANAcNYAcTTAcTTA MAHAPRANAcDDAcDDA MAHAPRANAcNA MURDAcTAcTA MURDAcDA",
    "cDA MAHAPRANAcNAcPAcPA MURDAcBAcBA MURDAcMAcYAcRAcRA AGUNGcLAcWAcSA MURDAdMAHAPRANAcSAcHA",
    "bSIGN CECAK TELUbVOWEL SIGN TARUNGdTOLONGdWULUdWULU MELIKdSUKUdSUKU MENDUTdTALING",
    "dDIRGA MUREdPEPETbCONSONANT SIGN KERETdPENGKALdCAKRAbPANGKONbLEFT RERENGGANbRIGHT RERENGGAN",
    "bPADA ANDAPcMADYAcLUHURcWINDUcPANGKATcLINGSAcLUNGSIcADEGcADEG ADEGcPISELEH",
    "bTURNED PADA PISELEH.bPANGRANGKEPbDIGIT ZEROcONEcTWOcTHREEcFOURcFIVEcSIXcSEVENcEIGHTcNINE..",
    "..bPADA TIRTA TUMETEScISEN-ISENaMYANMAR LETTER SHAN GHAdCHAdJHAdNNAdBHAbSIGN SHAN SAW",
    "bMODIFIER LETTER SHAN REDUPLICATIONbLETTER TAI LAING NYAeFAeGAeGHAeJAeJHAeDDAeDDHAeNNA",
    "bTAI LAING DIGIT ZEROeONEeTWOeTHREEeFOUReFIVEeSIXeSEVENeEIGHTeNINEbLETTER TAI LAING LLAeDA",
    "eDHAeBAeBHA"]⟩,
  ⟨0xAA00, [
    "aCHAM LETTER AcIcUcEcAIcOcKAcKHAcGAcGHAcNGUEcNGAcCHAcCHHAcJAcJHAcNHUEcNHAcNHJAcTAcTHAcDA",
    "cDHAcNUEcNAcDDAcPAcPPAcPHAcBAcBHAcMUEcMAcBBAcYAcRAcLAcVAcSSAcSAcHAbVOWEL SIGN AAdIdIIdEIdU",
    "dOEdOdAIdAUdUEbCONSONANT SIGN YAdRAdLAdWA.........bLETTER FINAL KdGdNG",
    "bCONSONANT SIGN FINAL NGbLETTER FINAL CHdTdNdPdYdRdLdSSbCONSONANT SIGN FINAL MeH..",
    "bDIGIT ZEROcONEcTWOcTHREEcFOURcFIVEcSIXcSEVENcEIGHTcNINE..bPUNCTUATION SPIRALcDANDA",
    "cDOUBLE DANDAcTRIPLE DANDAaMYANMAR LETTER KHAMTI GAdCAdCHAdJAdJHAdNYAdTTAdTTHAdDDAdDDHAdDHA",
    "dNAdSAdHAdHHAdFAbMODIFIER LETTER KHAMTI REDUPLICATIONbLETTER KHAMTI XAdZAdRA",
    "bLOGOGRAM KHAMTI OAYdQNdHMbSYMBOL AITON EXCLAMATIONdONEdTWObLETTER AITON RA",
    "bSIGN PAO KAREN TONEcTAI LAING TONE-2f5bLETTER SHWE PALAUNG CHAeSHAaTAI VIET LETTER LOW KO",
    "dHIGH KOdLOW KHOdHIGH KHOdLOW KHHOdHIGH KHHOdLOW GOdHIGH GOdLOW NGOdHIGH NGOdLOW COdHIGH CO",
    "dLOW CHOdHIGH CHOdLOW SOdHIGH SOdLOW NYOdHIGH NYOdLOW DOdHIGH DOdLOW TOdHIGH TOdLOW THO",
    "dHIGH THOdLOW NOdHIGH NOdLOW BOdHIGH BOdLOW POdHIGH POdLOW PHOdHIGH PHOdLOW FOdHIGH FO",
    "dLOW MOdHIGH MOdLOW YOdHIGH YOdLOW ROdHIGH ROdLOW LOdHIGH LOdLOW VOdHIGH VOdLOW HOdHIGH HO",
    "dLOW OdHIGH OcMAI KANGcVOWEL AAdIdUEdUdEdOcMAI KHITcVOWEL IAdUEAdUAdAUEdAYdANdAM",
    "cTONE MAI EKeNUENGeTHOeSONG"]⟩,
  ⟨0xAADB, [
    "aTAI VIET SYMBOL KONdNUENGdSAMdHO HOIdKOI KOIaMEETEI MAYEK LETTER EdOdCHAdNYAdTTAdTTHAdDDA",
    "dDDHAdNNAdSHAdSSAcVOWEL SIGN IIeUUeAAIeAUeAAUcCHEIKHANcAHANG KHUDAMcANJI",
    "cSYLLABLE REPETITION MARKcWORD REPETITION MARKcVOWEL SIGN VISARGAcVIRAMA"]⟩,
  ⟨0xAB01, [
    "aETHIOPIC SYLLABLE TTHUcTTHIcTTHAAcTTHEEcTTHEcTTHO..cDDHUcDDHIcDDHAAcDDHEEcDDHEcDDHO..cDZU",
    "cDZIcDZAAcDZEEcDZEcDZO.........cCCHHAcCCHHUcCCHHIcCCHHAAcCCHHEEcCCHHEcCCHHO.cBBAcBBUcBBI",
    "cBBAAcBBEEcBBEcBBO.aLATIN SMALL LETTER BARRED ALPHAdA REVERSED-SCHWAdBLACKLETTER EdBARRED E",
    "dE WITH FLOURISHdLENIS FdSCRIPT G WITH CROSSED-TAILdL WITH INVERTED LAZY S",
    "fDOUBLE MIDDLE TILDEfMIDDLE RINGdM WITH CROSSED-TAILdN WITH CROSSED-TAIL",
    "dENG WITH CROSSED-TAILdBLACKLETTER OeO WITH STROKEdOPEN O WITH STROKEdINVERTED OE",
    "dTURNED OE WITH STROKEgHORIZONTAL STROKEeO OPEN-OgO WITH STROKEdSTIRRUP R",
    "bLETTER SMALL CAPITAL R WITH RIGHT LEGbSMALL LETTER R WITHOUT HANDLEdDOUBLE R",
    "dR WITH CROSSED-TAILdDOUBLE R WITH CROSSED-TAILdSCRIPT ReR WITH RINGdBASELINE ESH",
    "dU WITH SHORT RIGHT LEGeBAR WITH SHORT RIGHT LEGdUIdTURNED UIdU WITH LEFT HOOKdCHI",
    "dCHI WITH LOW RIGHT RINGgLEFT SERIFdX WITH LOW RIGHT RINGfLONG LEFT LEG",
    "hLEG AND LOW RIGHT RINGiWITH SERIFdY WITH SHORT RIGHT LEG",
    "aMODIFIER BREVE WITH INVERTED BREVEbLETTER SMALL HENGdL WITH INVERTED LAZY SfMIDDLE TILDE",
    "dU WITH LEFT HOOKaLATIN SMALL LETTER SAKHA YATdIOTIFIED EdOPEN OEdUOdINVERTED ALPHA",
    "aGREEK LETTER SMALL CAPITAL OMEGAaLATIN SMALL LETTER DZ DIGRAPH WITH RETROFLEX HOOK",
    "dTS DIGRAPH WITH RETROFLEX HOOKdTURNED R WITH MIDDLE TILDEaMODIFIER LETTER SMALL TURNED W",
    "cLEFT TACKcRIGHT TACK....aCHEROKEE SMALL LETTER AdEdIdOdUdVdGAdKAdGEdGIdGOdGUdGVdHAdHEdHI",
    "dHOdHUdHVdLAdLEdLIdLOdLUdLVdMAdMEdMIdMOdMUdNAdHNAdNAHdNEdNIdNOdNUdNVdQUAdQUEdQUIdQUOdQUU",
    "dQUVdSAdSdSEdSIdSOdSUdSVdDAdTAdDEdTEdDIdTIdDOdDUdDVdDLAdTLAdTLEdTLIdTLOdTLUdTLVdTSAdTSEdTSI",
    "dTSOdTSUdTSVdWAdWEdWIdWOdWUdWVdYAaMEETEI MAYEK LETTER KOKdSAMdLAIdMITdPAdNAdCHILdTILdKHOU",
    "dNGOUdTHOUdWAIdYANGdHUKdUNdIdPHAMdATIYAdGOKdJHAMdRAIdBAdJILdDILdGHOUdDHOUdBHAMdKOK LONSUM",
    "dLAI LONSUMdMIT LONSUMdPA LONSUMdNA LONSUMdTIL LONSUMdNGOU LONSUMdI LONSUMcVOWEL SIGN ONAP",
    "eINAPeANAPeYENAPeSOUNAPeUNAPeCHEINAPeNUNGcCHEIKHEIcLUM IYEKcAPUN IYEK..cDIGIT ZEROdONEdTWO",
    "dTHREEdFOURdFIVEdSIXdSEVENdEIGHTdNINE"]⟩,
  ⟨0xD7B0, [
    "aHANGUL JUNGSEONG O-YEOdO-IcYO-AdAEdEOcU-YEOdI-IcYU-AEdOcEU-AdEOdEdOcI-YA-OdYAEdYEOdYEdO-I",
    "dYOdYUdIcARAEA-AdE....bJONGSEONG NIEUN-RIEULdCHIEUCHcSSANGTIKEUTcSSANGTIKEUT-PIEUP",
    "cTIKEUT-PIEUPdSIOSdSIOS-KIYEOKdCIEUCdCHIEUCHdTHIEUTHcRIEUL-SSANGKIYEOKdKIYEOK-HIEUH",
    "cSSANGRIEUL-KHIEUKHcRIEUL-MIEUM-HIEUHdPIEUP-TIKEUTePHIEUPHdYESIEUNGdYEORINHIEUH-HIEUH",
    "cKAPYEOUNRIEULcMIEUM-NIEUNdSSANGNIEUNcSSANGMIEUMcMIEUM-PIEUP-SIOSdCIEUCcPIEUP-TIKEUT",
    "dRIEUL-PHIEUPHdMIEUMcSSANGPIEUPcPIEUP-SIOS-TIKEUTdCIEUCdCHIEUCHcSIOS-MIEUMdKAPYEOUNPIEUP",
    "cSSANGSIOS-KIYEOKdTIKEUTcSIOS-PANSIOSdCIEUCdCHIEUCHdTHIEUTHdHIEUHcPANSIOS-PIEUP",
    "dKAPYEOUNPIEUPcYESIEUNG-MIEUMdHIEUHcCIEUC-PIEUPdSSANGPIEUPcSSANGCIEUCcPHIEUPH-SIOSdTHIEUTH"]⟩,
  ⟨0xFB00, [
    "aLATIN SMALL LIGATURE FFdFIdFLdFFIdFFLdLONG S TdST............",
    "aARMENIAN SMALL LIGATURE MEN NOWeECHeINIdVEW NOWdMEN XEH.....aHEBREW LETTER YOD WITH HIRIQ",
    "bPOINT JUDEO-SPANISH VARIKAbLIGATURE YIDDISH YOD YOD PATAHbLETTER ALTERNATIVE AYIN",
    "cWIDE ALEFdDALETdHEdKAFdLAMEDdFINAL MEMdRESHdTAVcALTERNATIVE PLUS SIGNcSHIN WITH SHIN DOT",
    "eSIN DOTeDAGESH AND SHIN DOTgSIN DOTcALEF WITH PATAHeQAMATSeMAPIQcBET WITH DAGESH",
    "cGIMEL WITH DAGESHcDALET WITH DAGESHcHE WITH MAPIQcVAV WITH DAGESHcZAYIN WITH DAGESH.",
    "cTET WITH DAGESHcYOD WITH DAGESHcFINAL KAF WITH DAGESHcKAF WITH DAGESHcLAMED WITH DAGESH.",
    "cMEM WITH DAGESH.cNUN WITH DAGESHcSAMEKH WITH DAGESH.cFINAL PE WITH DAGESHcPE WITH DAGESH.",
    "cTSADI WITH DAGESHcQOF WITH DAGESHcRESH WITH DAGESHcSHIN WITH DAGESHcTAV WITH DAGESH",
    "cVAV WITH HOLAMcBET WITH RAFEcKAF WITH RAFEcPE WITH RAFEbLIGATURE ALEF LAMED",
    "aARABIC LETTER ALEF WASLA ISOLATED FORMeFINAL FORMcBEEH ISOLATED FORMdFINAL FORM",
    "dINITIAL FORMdMEDIAL FORMcPEH ISOLATED FORMdFINAL FORMdINITIAL FORMdMEDIAL FORM",
    "cBEHEH ISOLATED FORMdFINAL FORMdINITIAL FORMdMEDIAL FORMcTTEHEH ISOLATED FORMdFINAL FORM",
    "dINITIAL FORMdMEDIAL FORMcTEHEH ISOLATED FORMdFINAL FORMdINITIAL FORMdMEDIAL FORM",
    "cTTEH ISOLATED FORMdFINAL FORMdINITIAL FORMdMEDIAL FORMcVEH ISOLATED FORMdFINAL FORM",
    "dINITIAL FORMdMEDIAL FORMcPEHEH ISOLATED FORMdFINAL FORMdINITIAL FORMdMEDIAL FORM",
    "cDYEH ISOLATED FORMdFINAL FORMdINITIAL FORMdMEDIAL FORMcNYEH ISOLATED FORMdFINAL FORM",
    "dINITIAL FORMdMEDIAL FORMcTCHEH ISOLATED FORMdFINAL FORMdINITIAL FORMdMEDIAL FORM",
    "cTCHEHEH ISOLATED FORMdFINAL FORMdINITIAL FORMdMEDIAL FORMcDDAHAL ISOLATED FORMdFINAL FORM",
    "cDAHAL ISOLATED FORMdFINAL FORMcDUL ISOLATED FORMdFINAL FORMcDDAL ISOLATED FORMdFINAL FORM",
    "cJEH ISOLATED FORMdFINAL FORMcRREH ISOLATED FORMdFINAL FORMcKEHEH ISOLATED FORMdFINAL FORM",
    "dINITIAL FORMdMEDIAL FORMcGAF ISOLATED FORMdFINAL FORMdINITIAL FORMdMEDIAL FORM",
    "cGUEH ISOLATED FORMdFINAL FORMdINITIAL FORMdMEDIAL FORMcNGOEH ISOLATED FORMdFINAL FORM",
    "dINITIAL FORMdMEDIAL FORMcNOON GHUNNA ISOLATED FORMeFINAL FORMcRNOON ISOLATED FORM",
    "dFINAL FORMdINITIAL FORMdMEDIAL FORMcHEH WITH YEH ABOVE ISOLATED FORMgFINAL FORM",
    "dGOAL ISOLATED FORMeFINAL FORMeINITIAL FORMeMEDIAL FORMdDOACHASHMEE ISOLATED FORM",
    "eFINAL FORMeINITIAL FORMeMEDIAL FORMcYEH BARREE ISOLATED FORMeFINAL FORM",
    "eWITH HAMZA ABOVE ISOLATED FORMhFINAL FORMbSYMBOL DOT ABOVEdBELOWcTWO DOTS ABOVEeBELOW",
    "cTHREE DOTS ABOVEeBELOWePOINTING DOWNWARDS ABOVEgBELOWcFOUR DOTS ABOVEeBELOW",
    "cDOUBLE VERTICAL BAR BELOWcTWO DOTS VERTICALLY ABOVEfBELOWcRINGcSMALL TAH ABOVEeBELOW",
    "cWASLA ABOVE................bLETTER NG ISOLATED FORMdFINAL FORMdINITIAL FORMdMEDIAL FORM",
    "cU ISOLATED FORMdFINAL FORMcOE ISOLATED FORMdFINAL FORMcYU ISOLATED FORMdFINAL FORM",
    "cU WITH HAMZA ABOVE ISOLATED FORMcVE ISOLATED FORMdFINAL FORMcKIRGHIZ OE ISOLATED FORM",
    "eFINAL FORMdYU ISOLATED FORMeFINAL FORMcE ISOLATED FORMdFINAL FORMdINITIAL FORMdMEDIAL FORM",
    "cUIGHUR KAZAKH KIRGHIZ ALEF MAKSURA INITIAL FORMhMEDIAL FORM",
    "bLIGATURE YEH WITH HAMZA ABOVE WITH ALEF ISOLATED FORMiFINAL FORMhAE ISOLATED FORM",
    "iFINAL FORMhWAW ISOLATED FORMiFINAL FORMhU ISOLATED FORMiFINAL FORMhOE ISOLATED FORM",
    "iFINAL FORMhYU ISOLATED FORMiFINAL FORMhE ISOLATED FORMiFINAL FORMiINITIAL FORM",
    "cUIGHUR KIRGHIZ YEH WITH HAMZA ABOVE WITH ALEF MAKSURA ISOLATED FORMlFINAL FORM",
    "lINITIAL FORMbLETTER FARSI YEH ISOLATED FORMeFINAL FORMeINITIAL FORMeMEDIAL FORM"]⟩,
  ⟨0xFC00, [
    "aARABIC LIGATURE YEH WITH HAMZA ABOVE WITH JEEM ISOLATED FORMhHAH ISOLATED FORM",
    "hMEEM ISOLATED FORMhALEF MAKSURA ISOLATED FORMhYEH ISOLATED FORM",
    "cBEH WITH JEEM ISOLATED FORMeHAH ISOLATED FORMeKHAH ISOLATED FORMeMEEM ISOLATED FORM",
    "eALEF MAKSURA ISOLATED FORMeYEH ISOLATED FORMcTEH WITH JEEM ISOLATED FORMeHAH ISOLATED FORM",
    "eKHAH ISOLATED FORMeMEEM ISOLATED FORMeALEF MAKSURA ISOLATED FORMeYEH ISOLATED FORM",
    "cTHEH WITH JEEM ISOLATED FORMeMEEM ISOLATED FORMeALEF MAKSURA ISOLATED FORM",
    "eYEH ISOLATED FORMcJEEM WITH HAH ISOLATED FORMeMEEM ISOLATED FORM",
    "cHAH WITH JEEM ISOLATED FORMeMEEM ISOLATED FORMcKHAH WITH JEEM ISOLATED FORM",
    "eHAH ISOLATED FORMeMEEM ISOLATED FORMcSEEN WITH JEEM ISOLATED FORMeHAH ISOLATED FORM",
    "eKHAH ISOLATED FORMeMEEM ISOLATED FORMcSAD WITH HAH ISOLATED FORMeMEEM ISOLATED FORM",
    "cDAD WITH JEEM ISOLATED FORMeHAH ISOLATED FORMeKHAH ISOLATED FORMeMEEM ISOLATED FORM",
    "cTAH WITH HAH ISOLATED FORMeMEEM ISOLATED FORMcZAH WITH MEEM ISOLATED FORM",
    "cAIN WITH JEEM ISOLATED FORMeMEEM ISOLATED FORMcGHAIN WITH JEEM ISOLATED FORM",
    "eMEEM ISOLATED FORMcFEH WITH JEEM ISOLATED FORMeHAH ISOLATED FORMeKHAH ISOLATED FORM",
    "eMEEM ISOLATED FORMeALEF MAKSURA ISOLATED FORMeYEH ISOLATED FORMcQAF WITH HAH ISOLATED FORM",
    "eMEEM ISOLATED FORMeALEF MAKSURA ISOLATED FORMeYEH ISOLATED FORM",
    "cKAF WITH ALEF ISOLATED FORMeJEEM ISOLATED FORMeHAH ISOLATED FORMeKHAH ISOLATED FORM",
    "eLAM ISOLATED FORMeMEEM ISOLATED FORMeALEF MAKSURA ISOLATED FORMeYEH ISOLATED FORM",
    "cLAM WITH JEEM ISOLATED FORMeHAH ISOLATED FORMeKHAH ISOLATED FORMeMEEM ISOLATED FORM",
    "eALEF MAKSURA ISOLATED FORMeYEH ISOLATED FORMcMEEM WITH JEEM ISOLATED FORM",
    "eHAH ISOLATED FORMeKHAH ISOLATED FORMeMEEM ISOLATED FORMeALEF MAKSURA ISOLATED FORM",
    "eYEH ISOLATED FORMcNOON WITH JEEM ISOLATED FORMeHAH ISOLATED FORMeKHAH ISOLATED FORM",
    "eMEEM ISOLATED FORMeALEF MAKSURA ISOLATED FORMeYEH ISOLATED FORM",
    "cHEH WITH JEEM ISOLATED FORMeMEEM ISOLATED FORMeALEF MAKSURA ISOLATED FORM",
    "eYEH ISOLATED FORMcYEH WITH JEEM ISOLATED FORMeHAH ISOLATED FORMeKHAH ISOLATED FORM",
    "eMEEM ISOLATED FORMeALEF MAKSURA ISOLATED FORMeYEH ISOLATED FORM",
    "cTHAL WITH SUPERSCRIPT ALEF ISOLATED FORMcREH WITH SUPERSCRIPT ALEF ISOLATED FORM",
    "cALEF MAKSURA WITH SUPERSCRIPT ALEF ISOLATED FORMcSHADDA WITH DAMMATAN ISOLATED FORM",
    "eKASRATAN ISOLATED FORMeFATHA ISOLATED FORMeDAMMA ISOLATED FORMeKASRA ISOLATED FORM",
    "eSUPERSCRIPT ALEF ISOLATED FORMcYEH WITH HAMZA ABOVE WITH REH FINAL FORMhZAIN FINAL FORM",
    "hMEEM FINAL FORMhNOON FINAL FORMhALEF MAKSURA FINAL FORMhYEH FINAL FORM",
    "cBEH WITH REH FINAL FORMeZAIN FINAL FORMeMEEM FINAL FORMeNOON FINAL FORM",
    "eALEF MAKSURA FINAL FORMeYEH FINAL FORMcTEH WITH REH FINAL FORMeZAIN FINAL FORM",
    "eMEEM FINAL FORMeNOON FINAL FORMeALEF MAKSURA FINAL FORMeYEH FINAL FORM",
    "cTHEH WITH REH FINAL FORMeZAIN FINAL FORMeMEEM FINAL FORMeNOON FINAL FORM",
    "eALEF MAKSURA FINAL FORMeYEH FINAL FORMcFEH WITH ALEF MAKSURA FINAL FORMeYEH FINAL FORM",
    "cQAF WITH ALEF MAKSURA FINAL FORMeYEH FINAL FORMcKAF WITH ALEF FINAL FORMeLAM FINAL FORM",
    "eMEEM FINAL FORMeALEF MAKSURA FINAL FORMeYEH FINAL FORMcLAM WITH MEEM FINAL FORM",
    "eALEF MAKSURA FINAL FORMeYEH FINAL FORMcMEEM WITH ALEF FINAL FORMeMEEM FINAL FORM",
    "cNOON WITH REH FINAL FORMeZAIN FINAL FORMeMEEM FINAL FORMeNOON FINAL FORM",
    "eALEF MAKSURA FINAL FORMeYEH FINAL FORMcALEF MAKSURA WITH SUPERSCRIPT ALEF FINAL FORM",
    "cYEH WITH REH FINAL FORMeZAIN FINAL FORMeMEEM FINAL FORMeNOON FINAL FORM",
    "eALEF MAKSURA FINAL FORMeYEH FINAL FORMeHAMZA ABOVE WITH JEEM INITIAL FORMhHAH INITIAL FORM",
    "hKHAH INITIAL FORMhMEEM INITIAL FORMhHEH INITIAL FORMcBEH WITH JEEM INITIAL FORM",
    "eHAH INITIAL FORMeKHAH INITIAL FORMeMEEM INITIAL FORMeHEH INITIAL FORM",
    "cTEH WITH JEEM INITIAL FORMeHAH INITIAL FORMeKHAH INITIAL FORMeMEEM INITIAL FORM",
    "eHEH INITIAL FORMcTHEH WITH MEEM INITIAL FORMcJEEM WITH HAH INITIAL FORMeMEEM INITIAL FORM",
    "cHAH WITH JEEM INITIAL FORMeMEEM INITIAL FORMcKHAH WITH JEEM INITIAL FORMeMEEM INITIAL FORM",
    "cSEEN WITH JEEM INITIAL FORMeHAH INITIAL FORMeKHAH INITIAL FORMeMEEM INITIAL FORM",
    "cSAD WITH HAH INITIAL FORMeKHAH INITIAL FORMeMEEM INITIAL FORMcDAD WITH JEEM INITIAL FORM",
    "eHAH INITIAL FORMeKHAH INITIAL FORMeMEEM INITIAL FORMcTAH WITH HAH INITIAL FORM",
    "cZAH WITH MEEM INITIAL FORMcAIN WITH JEEM INITIAL FORMeMEEM INITIAL FORM",
    "cGHAIN WITH JEEM INITIAL FORMeMEEM INITIAL FORMcFEH WITH JEEM INITIAL FORMeHAH INITIAL FORM",
    "eKHAH INITIAL FORMeMEEM INITIAL FORMcQAF WITH HAH INITIAL FORMeMEEM INITIAL FORM",
    "cKAF WITH JEEM INITIAL FORMeHAH INITIAL FORMeKHAH INITIAL FORMeLAM INITIAL FORM",
    "eMEEM INITIAL FORMcLAM WITH JEEM INITIAL FORMeHAH INITIAL FORMeKHAH INITIAL FORM",
    "eMEEM INITIAL FORMeHEH INITIAL FORMcMEEM WITH JEEM INITIAL FORMeHAH INITIAL FORM",
    "eKHAH INITIAL FORMeMEEM INITIAL FORMcNOON WITH JEEM INITIAL FORMeHAH INITIAL FORM",
    "eKHAH INITIAL FORMeMEEM INITIAL FORMeHEH INITIAL FORMcHEH WITH JEEM INITIAL FORM",
    "eMEEM INITIAL FORMeSUPERSCRIPT ALEF INITIAL FORMcYEH WITH JEEM INITIAL FORM",
    "eHAH INITIAL FORMeKHAH INITIAL FORMeMEEM INITIAL FORMeHEH INITIAL FORM",
    "eHAMZA ABOVE WITH MEEM MEDIAL FORMhHEH MEDIAL FORMcBEH WITH MEEM MEDIAL FORM",
    "eHEH MEDIAL FORMcTEH WITH MEEM MEDIAL FORMeHEH MEDIAL FORMcTHEH WITH MEEM MEDIAL FORM",
    "eHEH MEDIAL FORMcSEEN WITH MEEM MEDIAL FORMeHEH MEDIAL FORMcSHEEN WITH MEEM MEDIAL FORM",
    "eHEH MEDIAL FORMcKAF WITH LAM MEDIAL FORMeMEEM MEDIAL FORMcLAM WITH MEEM MEDIAL FORM",
    "cNOON WITH MEEM MEDIAL FORMeHEH MEDIAL FORMcYEH WITH MEEM MEDIAL FORMeHEH MEDIAL FORM",
    "cSHADDA WITH FATHA MEDIAL FORMeDAMMA MEDIAL FORMeKASRA MEDIAL FORM",
    "cTAH WITH ALEF MAKSURA ISOLATED FORMeYEH ISOLATED FORMcAIN WITH ALEF MAKSURA ISOLATED FORM",
    "eYEH ISOLATED FORMcGHAIN WITH ALEF MAKSURA ISOLATED FORMeYEH ISOLATED FORM",
    "cSEEN WITH ALEF MAKSURA ISOLATED FORMeYEH ISOLATED FORM",
    "cSHEEN WITH ALEF MAKSURA ISOLATED FORMeYEH ISOLATED FORM",
    "cHAH WITH ALEF MAKSURA ISOLATED FORM"]⟩,
  ⟨0xFD00, [
    "aARABIC LIGATURE HAH WITH YEH ISOLATED FORMcJEEM WITH ALEF MAKSURA ISOLATED FORM",
    "eYEH ISOLATED FORMcKHAH WITH ALEF MAKSURA ISOLATED FORMeYEH ISOLATED FORM",
    "cSAD WITH ALEF MAKSURA ISOLATED FORMeYEH ISOLATED FORMcDAD WITH ALEF MAKSURA ISOLATED FORM",
    "eYEH ISOLATED FORMcSHEEN WITH JEEM ISOLATED FORMeHAH ISOLATED FORMeKHAH ISOLATED FORM",
    "eMEEM ISOLATED FORMeREH ISOLATED FORMcSEEN WITH REH ISOLATED FORM",
    "cSAD WITH REH ISOLATED FORMcDAD WITH REH ISOLATED FORMcTAH WITH ALEF MAKSURA FINAL FORM",
    "eYEH FINAL FORMcAIN WITH ALEF MAKSURA FINAL FORMeYEH FINAL FORM",
    "cGHAIN WITH ALEF MAKSURA FINAL FORMeYEH FINAL FORMcSEEN WITH ALEF MAKSURA FINAL FORM",
    "eYEH FINAL FORMcSHEEN WITH ALEF MAKSURA FINAL FORMeYEH FINAL FORM",
    "cHAH WITH ALEF MAKSURA FINAL FORMeYEH FINAL FORMcJEEM WITH ALEF MAKSURA FINAL FORM",
    "eYEH FINAL FORMcKHAH WITH ALEF MAKSURA FINAL FORMeYEH FINAL FORM",
    "cSAD WITH ALEF MAKSURA FINAL FORMeYEH FINAL FORMcDAD WITH ALEF MAKSURA FINAL FORM",
    "eYEH FINAL FORMcSHEEN WITH JEEM FINAL FORMeHAH FINAL FORMeKHAH FINAL FORMeMEEM FINAL FORM",
    "eREH FINAL FORMcSEEN WITH REH FINAL FORMcSAD WITH REH FINAL FORMcDAD WITH REH FINAL FORM",
    "cSHEEN WITH JEEM INITIAL FORMeHAH INITIAL FORMeKHAH INITIAL FORMeMEEM INITIAL FORM",
    "cSEEN WITH HEH INITIAL FORMcSHEEN WITH HEH INITIAL FORMcTAH WITH MEEM INITIAL FORM",
    "cSEEN WITH JEEM MEDIAL FORMeHAH MEDIAL FORMeKHAH MEDIAL FORMcSHEEN WITH JEEM MEDIAL FORM",
    "eHAH MEDIAL FORMeKHAH MEDIAL FORMcTAH WITH MEEM MEDIAL FORMcZAH WITH MEEM MEDIAL FORM",
    "cALEF WITH FATHATAN FINAL FORMfISOLATED FORMaORNATE LEFT PARENTHESISbRIGHT PARENTHESIS",
    "aARABIC LIGATURE RAHIMAHU ALLAAHcRADI ALLAAHU ANHeANHAAeANHUMeANHUMAAeANHUNNA",
    "cSALLALLAAHU ALAYHI WA-AALIHcALAYHI AS-SALAAMcALAYHIM AS-SALAAMcALAYHIMAA AS-SALAAM",
    "cALAYHI AS-SALAATU WAS-SALAAMcQUDDISA SIRRAHcSALLALLAHU ALAYHI WAAALIHEE WA-SALLAM",
    "cALAYHAA AS-SALAAMcTABAARAKA WA-TAAALAAcRAHIMAHUM ALLAAH",
    "cTEH WITH JEEM WITH MEEM INITIAL FORMeHAH WITH JEEM FINAL FORMhINITIAL FORM",
    "gMEEM INITIAL FORMeKHAH WITH MEEM INITIAL FORMeMEEM WITH JEEM INITIAL FORMgHAH INITIAL FORM",
    "gKHAH INITIAL FORMcJEEM WITH MEEM WITH HAH FINAL FORMhINITIAL FORM",
    "cHAH WITH MEEM WITH YEH FINAL FORMgALEF MAKSURA FINAL FORM",
    "cSEEN WITH HAH WITH JEEM INITIAL FORMeJEEM WITH HAH INITIAL FORMgALEF MAKSURA FINAL FORM",
    "eMEEM WITH HAH FINAL FORMhINITIAL FORMgJEEM INITIAL FORMgMEEM FINAL FORMhINITIAL FORM",
    "cSAD WITH HAH WITH HAH FINAL FORMhINITIAL FORMeMEEM WITH MEEM FINAL FORM",
    "cSHEEN WITH HAH WITH MEEM FINAL FORMhINITIAL FORMeJEEM WITH YEH FINAL FORM",
    "eMEEM WITH KHAH FINAL FORMhINITIAL FORMgMEEM FINAL FORMhINITIAL FORM",
    "cDAD WITH HAH WITH ALEF MAKSURA FINAL FORMeKHAH WITH MEEM FINAL FORMhINITIAL FORM",
    "cTAH WITH MEEM WITH HAH FINAL FORMhINITIAL FORMgMEEM INITIAL FORMgYEH FINAL FORM",
    "cAIN WITH JEEM WITH MEEM FINAL FORMeMEEM WITH MEEM FINAL FORMhINITIAL FORM",
    "gALEF MAKSURA FINAL FORMcGHAIN WITH MEEM WITH MEEM FINAL FORMgYEH FINAL FORM",
    "gALEF MAKSURA FINAL FORMcFEH WITH KHAH WITH MEEM FINAL FORMhINITIAL FORM",
    "cQAF WITH MEEM WITH HAH FINAL FORMgMEEM FINAL FORMcLAM WITH HAH WITH MEEM FINAL FORM",
    "gYEH FINAL FORMgALEF MAKSURA FINAL FORMeJEEM WITH JEEM INITIAL FORMhFINAL FORM",
    "eKHAH WITH MEEM FINAL FORMhINITIAL FORMeMEEM WITH HAH FINAL FORMhINITIAL FORM",
    "cMEEM WITH HAH WITH JEEM INITIAL FORMgMEEM INITIAL FORMgYEH FINAL FORM",
    "eJEEM WITH HAH INITIAL FORMgMEEM INITIAL FORMeKHAH WITH JEEM INITIAL FORMgMEEM INITIAL FORM",
    "..eJEEM WITH KHAH INITIAL FORMcHEH WITH MEEM WITH JEEM INITIAL FORMgMEEM INITIAL FORM",
    "cNOON WITH HAH WITH MEEM INITIAL FORMgALEF MAKSURA FINAL FORMeJEEM WITH MEEM FINAL FORM",
    "hINITIAL FORMgALEF MAKSURA FINAL FORMeMEEM WITH YEH FINAL FORMgALEF MAKSURA FINAL FORM",
    "cYEH WITH MEEM WITH MEEM FINAL FORMhINITIAL FORMcBEH WITH KHAH WITH YEH FINAL FORM",
    "cTEH WITH JEEM WITH YEH FINAL FORMgALEF MAKSURA FINAL FORMeKHAH WITH YEH FINAL FORM",
    "gALEF MAKSURA FINAL FORMeMEEM WITH YEH FINAL FORMgALEF MAKSURA FINAL FORM",
    "cJEEM WITH MEEM WITH YEH FINAL FORMeHAH WITH ALEF MAKSURA FINAL FORM",
    "eMEEM WITH ALEF MAKSURA FINAL FORMcSEEN WITH KHAH WITH ALEF MAKSURA FINAL FORM",
    "cSAD WITH HAH WITH YEH FINAL FORMcSHEEN WITH HAH WITH YEH FINAL FORM",
    "cDAD WITH HAH WITH YEH FINAL FORMcLAM WITH JEEM WITH YEH FINAL FORM",
    "eMEEM WITH YEH FINAL FORMcYEH WITH HAH WITH YEH FINAL FORMeJEEM WITH YEH FINAL FORM",
    "eMEEM WITH YEH FINAL FORMcMEEM WITH MEEM WITH YEH FINAL FORM",
    "cQAF WITH MEEM WITH YEH FINAL FORMcNOON WITH HAH WITH YEH FINAL FORM",
    "cQAF WITH MEEM WITH HAH INITIAL FORMcLAM WITH HAH WITH MEEM INITIAL FORM",
    "cAIN WITH MEEM WITH YEH FINAL FORMcKAF WITH MEEM WITH YEH FINAL FORM",
    "cNOON WITH JEEM WITH HAH INITIAL FORMcMEEM WITH KHAH WITH YEH FINAL FORM",
    "cLAM WITH JEEM WITH MEEM INITIAL FORMcKAF WITH MEEM WITH MEEM FINAL FORM",
    "cLAM WITH JEEM WITH MEEM FINAL FORMcNOON WITH JEEM WITH HAH FINAL FORM",
    "cJEEM WITH HAH WITH YEH FINAL FORMcHAH WITH JEEM WITH YEH FINAL FORM",
    "cMEEM WITH JEEM WITH YEH FINAL FORMcFEH WITH MEEM WITH YEH FINAL FORM",
    "cBEH WITH HAH WITH YEH FINAL FORMcKAF WITH MEEM WITH MEEM INITIAL FORM",
    "cAIN WITH JEEM WITH MEEM INITIAL FORMcSAD WITH MEEM WITH MEEM INITIAL FORM",
    "cSEEN WITH KHAH WITH YEH FINAL FORMcNOON WITH JEEM WITH YEH FINAL FORM.......",
    "cSALAAMUHU ALAYNAA"]⟩,
  ⟨0xFDF0, [
    "aARABIC LIGATURE SALLA USED AS KORANIC STOP SIGN ISOLATED FORM",
    "cQALA USED AS KORANIC STOP SIGN ISOLATED FORMcALLAH ISOLATED FORMcAKBAR ISOLATED FORM",
    "cMOHAMMAD ISOLATED FORMcSALAM ISOLATED FORMcRASOUL ISOLATED FORMcALAYHE ISOLATED FORM",
    "cWASALLAM ISOLATED FORMcSALLA ISOLATED FORMcSALLALLAHOU ALAYHE WASALLAMcJALLAJALALOUHOU",
    "aRIAL SIGNaARABIC LIGATURE BISMILLAH AR-RAHMAN AR-RAHEEMcSUBHAANAHU WA TAAALAAcAZZA WA JALL"]⟩,
  ⟨0xFE00, [
    "aVARIATION SELECTOR-1c2c3c4c5c6c7c8c9c10c11c12c13c14c15c16",
    "aPRESENTATION FORM FOR VERTICAL COMMAeIDEOGRAPHIC COMMAfFULL STOPeCOLONeSEMICOLON",
    "eEXCLAMATION MARKeQUESTION MARKeLEFT WHITE LENTICULAR BRACKET",
    "eRIGHT WHITE LENTICULAR BRAKCETeHORIZONTAL ELLIPSIS......aCOMBINING LIGATURE LEFT HALF",
    "cRIGHT HALFbDOUBLE TILDE LEFT HALFdRIGHT HALFbMACRON LEFT HALFcRIGHT HALFbCONJOINING MACRON",
    "bLIGATURE LEFT HALF BELOWcRIGHT HALF BELOWbTILDE LEFT HALF BELOWcRIGHT HALF BELOW",
    "bMACRON LEFT HALF BELOWcRIGHT HALF BELOWbCONJOINING MACRON BELOWbCYRILLIC TITLO LEFT HALF",
    "dRIGHT HALFaPRESENTATION FORM FOR VERTICAL TWO DOT LEADEReEM DASHeEN DASHeLOW LINE",
    "eWAVY LOW LINEeLEFT PARENTHESISeRIGHT PARENTHESISeLEFT CURLY BRACKETeRIGHT CURLY BRACKET",
    "eLEFT TORTOISE SHELL BRACKETeRIGHT TORTOISE SHELL BRACKETeLEFT BLACK LENTICULAR BRACKET",
    "eRIGHT BLACK LENTICULAR BRACKETeLEFT DOUBLE ANGLE BRACKETeRIGHT DOUBLE ANGLE BRACKET",
    "eLEFT ANGLE BRACKETeRIGHT ANGLE BRACKETeLEFT CORNER BRACKETeRIGHT CORNER BRACKET",
    "eLEFT WHITE CORNER BRACKETeRIGHT WHITE CORNER BRACKETaSESAME DOTaWHITE SESAME DOT",
    "aPRESENTATION FORM FOR VERTICAL LEFT SQUARE BRACKETeRIGHT SQUARE BRACKETaDASHED OVERLINE",
    "aCENTRELINE OVERLINEaWAVY OVERLINEaDOUBLE WAVY OVERLINEaDASHED LOW LINEaCENTRELINE LOW LINE",
    "aWAVY LOW LINEaSMALL COMMAbIDEOGRAPHIC COMMAbFULL STOP.bSEMICOLONbCOLONbQUESTION MARK",
    "bEXCLAMATION MARKbEM DASHbLEFT PARENTHESISbRIGHT PARENTHESISbLEFT CURLY BRACKET",
    "bRIGHT CURLY BRACKETbLEFT TORTOISE SHELL BRACKETbRIGHT TORTOISE SHELL BRACKETbNUMBER SIGN",
    "bAMPERSANDbASTERISKbPLUS SIGNbHYPHEN-MINUSbLESS-THAN SIGNbGREATER-THAN SIGNbEQUALS SIGN.",
    "bREVERSE SOLIDUSbDOLLAR SIGNbPERCENT SIGNbCOMMERCIAL AT....aARABIC FATHATAN ISOLATED FORM",
    "bTATWEEL WITH FATHATAN ABOVEbDAMMATAN ISOLATED FORMbTAIL FRAGMENTbKASRATAN ISOLATED FORM.",
    "bFATHA ISOLATED FORMcMEDIAL FORMbDAMMA ISOLATED FORMcMEDIAL FORMbKASRA ISOLATED FORM",
    "cMEDIAL FORMbSHADDA ISOLATED FORMcMEDIAL FORMbSUKUN ISOLATED FORMcMEDIAL FORM",
    "bLETTER HAMZA ISOLATED FORMcALEF WITH MADDA ABOVE ISOLATED FORMgFINAL FORM",
    "eHAMZA ABOVE ISOLATED FORMgFINAL FORMcWAW WITH HAMZA ABOVE ISOLATED FORMgFINAL FORM",
    "cALEF WITH HAMZA BELOW ISOLATED FORMgFINAL FORMcYEH WITH HAMZA ABOVE ISOLATED FORM",
    "gFINAL FORMgINITIAL FORMgMEDIAL FORMcALEF ISOLATED FORMdFINAL FORMcBEH ISOLATED FORM",
    "dFINAL FORMdINITIAL FORMdMEDIAL FORMcTEH MARBUTA ISOLATED FORMeFINAL FORMdISOLATED FORM",
    "dFINAL FORMdINITIAL FORMdMEDIAL FORMcTHEH ISOLATED FORMdFINAL FORMdINITIAL FORMdMEDIAL FORM",
    "cJEEM ISOLATED FORMdFINAL FORMdINITIAL FORMdMEDIAL FORMcHAH ISOLATED FORMdFINAL FORM",
    "dINITIAL FORMdMEDIAL FORMcKHAH ISOLATED FORMdFINAL FORMdINITIAL FORMdMEDIAL FORM",
    "cDAL ISOLATED FORMdFINAL FORMcTHAL ISOLATED FORMdFINAL FORMcREH ISOLATED FORMdFINAL FORM",
    "cZAIN ISOLATED FORMdFINAL FORMcSEEN ISOLATED FORMdFINAL FORMdINITIAL FORMdMEDIAL FORM",
    "cSHEEN ISOLATED FORMdFINAL FORMdINITIAL FORMdMEDIAL FORMcSAD ISOLATED FORMdFINAL FORM",
    "dINITIAL FORMdMEDIAL FORMcDAD ISOLATED FORMdFINAL FORMdINITIAL FORMdMEDIAL FORM",
    "cTAH ISOLATED FORMdFINAL FORMdINITIAL FORMdMEDIAL FORMcZAH ISOLATED FORMdFINAL FORM",
    "dINITIAL FORMdMEDIAL FORMcAIN ISOLATED FORMdFINAL FORMdINITIAL FORMdMEDIAL FORM",
    "cGHAIN ISOLATED FORMdFINAL FORMdINITIAL FORMdMEDIAL FORMcFEH ISOLATED FORMdFINAL FORM",
    "dINITIAL FORMdMEDIAL FORMcQAF ISOLATED FORMdFINAL FORMdINITIAL FORMdMEDIAL FORM",
    "cKAF ISOLATED FORMdFINAL FORMdINITIAL FORMdMEDIAL FORMcLAM ISOLATED FORMdFINAL FORM",
    "dINITIAL FORMdMEDIAL FORMcMEEM ISOLATED FORMdFINAL FORMdINITIAL FORMdMEDIAL FORM",
    "cNOON ISOLATED FORMdFINAL FORMdINITIAL FORMdMEDIAL FORMcHEH ISOLATED FORMdFINAL FORM",
    "dINITIAL FORMdMEDIAL FORMcWAW ISOLATED FORMdFINAL FORMcALEF MAKSURA ISOLATED FORM",
    "eFINAL FORMcYEH ISOLATED FORMdFINAL FORMdINITIAL FORMdMEDIAL FORM",
    "bLIGATURE LAM WITH ALEF WITH MADDA ABOVE ISOLATED FORMiFINAL FORMgHAMZA ABOVE ISOLATED FORM",
    "iFINAL FORMhBELOW ISOLATED FORMiFINAL FORMfISOLATED FORMfFINAL FORM..",
    "aZERO WIDTH NO-BREAK SPACE"]⟩,
  ⟨0xFF01, [
    "aFULLWIDTH EXCLAMATION MARKbQUOTATION MARKbNUMBER SIGNbDOLLAR SIGNbPERCENT SIGNbAMPERSAND",
    "bAPOSTROPHEbLEFT PARENTHESISbRIGHT PARENTHESISbASTERISKbPLUS SIGNbCOMMAbHYPHEN-MINUS",
    "bFULL STOPbSOLIDUSbDIGIT ZEROcONEcTWOcTHREEcFOURcFIVEcSIXcSEVENcEIGHTcNINEbCOLONbSEMICOLON",
    "bLESS-THAN SIGNbEQUALS SIGNbGREATER-THAN SIGNbQUESTION MARKbCOMMERCIAL AT",
    "bLATIN CAPITAL LETTER AeBeCeDeEeFeGeHeIeJeKeLeMeNeOePeQeReSeTeUeVeWeXeYeZ",
    "bLEFT SQUARE BRACKETbREVERSE SOLIDUSbRIGHT SQUARE BRACKETbCIRCUMFLEX ACCENTbLOW LINE",
    "bGRAVE ACCENTbLATIN SMALL LETTER AeBeCeDeEeFeGeHeIeJeKeLeMeNeOePeQeReSeTeUeVeWeXeYeZ",
    "bLEFT CURLY BRACKETbVERTICAL LINEbRIGHT CURLY BRACKETbTILDEbLEFT WHITE PARENTHESIS",
    "bRIGHT WHITE PARENTHESISaHALFWIDTH IDEOGRAPHIC FULL STOPbLEFT CORNER BRACKET",
    "bRIGHT CORNER BRACKETbIDEOGRAPHIC COMMAbKATAKANA MIDDLE DOTcLETTER WOdSMALL AeIeUeEeOeYAeYU",
    "eYOeTUbKATAKANA-HIRAGANA PROLONGED SOUND MARKbKATAKANA LETTER AdIdUdEdOdKAdKIdKUdKEdKOdSA",
    "dSIdSUdSEdSOdTAdTIdTUdTEdTOdNAdNIdNUdNEdNOdHAdHIdHUdHEdHOdMAdMIdMUdMEdMOdYAdYUdYOdRAdRIdRU",
    "dREdROdWAdNcVOICED SOUND MARKcSEMI-VOICED SOUND MARKbHANGUL FILLERcLETTER KIYEOK",
    "dSSANGKIYEOKdKIYEOK-SIOSdNIEUNdNIEUN-CIEUCeHIEUHdTIKEUTdSSANGTIKEUTdRIEULdRIEUL-KIYEOK",
    "eMIEUMePIEUPeSIOSeTHIEUTHePHIEUPHeHIEUHdMIEUMdPIEUPdSSANGPIEUPdPIEUP-SIOSdSIOSdSSANGSIOS",
    "dIEUNGdCIEUCdSSANGCIEUCdCHIEUCHdKHIEUKHdTHIEUTHdPHIEUPHdHIEUH...dAdAEdYAdYAEdEOdE..dYEOdYE",
    "dOdWAdWAEdOE..dYOdUdWEOdWEdWIdYU..dEUdYIdI...aFULLWIDTH CENT SIGNbPOUND SIGNbNOT SIGN",
    "bMACRONbBROKEN BARbYEN SIGNbWON SIGN.aHALFWIDTH FORMS LIGHT VERTICALbLEFTWARDS ARROW",
    "bUPWARDS ARROWbRIGHTWARDS ARROWbDOWNWARDS ARROWbBLACK SQUAREbWHITE CIRCLE..........",
    "aINTERLINEAR ANNOTATION ANCHORcSEPARATORcTERMINATORaOBJECT REPLACEMENT CHARACTER",
    "aREPLACEMENT CHARACTER"]⟩]

end LogHarvest.Text.Table
