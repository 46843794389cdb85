import LogHarvest.Text.Table.NameRun

/-!
# Names: cuneiform, hieroglyphs and the other large scripts of the supplementary plane
-/

namespace LogHarvest.Text.Table

def pictorialNames : List NameRun := [
  ⟨0x12000, [
    "aCUNEIFORM SIGN AcA TIMES AeBADeGAN2 TENUeHAeIGIeLAGAR GUNUeMUSHeSAGcA2cABcAB TIMES ASH2",
    "eDUN3 GUNUeGALeGAN2 TENUeHAeIGI GUNUeIMINeLAGABeSHESHeU PLUS U PLUS UdGUNUcAB2",
    "cAB2 TIMES BALAGeGAN2 TENUeME PLUS ENeSHA3eTAK4cADcAKcAK TIMES ERIN2eSHITA PLUS GISHcAL",
    "cAL TIMES ALeDIM2eGISHeHAeKAD3eKIeSHEeUSHcALANcALEPHcAMARcAMAR TIMES SHEcANcAN OVER AN",
    "dTHREE TIMESdPLUS NAGA OPPOSING AN PLUS NAGAfSQUAREDcANSHEcAPINcARADcARAD TIMES KURcARKAB",
    "cASAL2cASHcASH ZIDA TENUdKABA TENUdOVER ASH TUG2 OVER TUG2 TUG2 OVER TUG2 PAPfOVER ASH",
    "gASH CROSSING ASH OVER ASH OVER ASHcASH2cASHGABcBAcBADcBAG3cBAHAR2cBALcBAL OVER BALcBALAG",
    "cBARcBARA2cBIcBI TIMES AeGAReIGI GUNUcBUcBU OVER BU ABfUNdCROSSING BUcBULUG",
    "cBULUG OVER BULUGcBURcBUR2cDAcDAGcDAG KISIM5 TIMES A PLUS MASHfAMARfBALAGfBIfGA",
    "fGA PLUS MASHfGIfGIR2fGUDfHAfIRfIR PLUS LUfKAKfLAfLUfLU PLUS MASH2fLUMfNEfPAP PLUS PAPfSI",
    "fTAK4fU2 PLUS GIR2fUSHcDAMcDARcDARA3cDARA4cDIcDIBcDIMcDIM TIMES SHEcDIM2cDIN",
    "cDIN KASKAL U GUNU DISHcDISHcDUcDU OVER DUdGUNUdSHESHIGcDUBcDUB TIMES ESH2cDUB2cDUGcDUGUD",
    "cDUHcDUNcDUN3cDUN3 GUNUdGUNU GUNUcDUN4cDUR2cEcE TIMES PAPdOVER E NUN OVER NUNcE2",
    "cE2 TIMES A PLUS HA PLUS DAeGAReMIeSALeSHEeUcEDINcEGIRcELcENcEN TIMES GAN2eGAN2 TENUeME",
    "dCROSSING ENdOPPOSING ENdSQUAREDcERENcERIN2cESH2cEZENcEZEN TIMES AeA PLUS LALgLAL TIMES LAL",
    "eANeBADeDUN3 GUNUfGUNU GUNUeHAeHA GUNUeIGI GUNUeKASKALeKASKAL SQUAREDeKU3eLAeLAL TIMES LAL",
    "eLIeLUeU2eUDcGAcGA GUNUcGA2cGA2 TIMES A PLUS DA PLUS HAgHAgIGIeAB2 TENU PLUS TABeANeASH",
    "eASH2 PLUS GALeBADeBAR PLUS RAeBUReBUR PLUS RAeDAeDIeDIM TIMES SHEeDUBeELeEL PLUS LAeEN",
    "eEN TIMES GAN2 TENUeGAN2 TENUeGAReGIeGI4eGI4 PLUS AeGIR2 PLUS SUeHA PLUS LU PLUS ESH2eHAL",
    "eHAL PLUS LAeHI PLUS LIeHUB2eIGI GUNUeISH PLUS HU PLUS ASHeKAKeKASKALeKIDeKID PLUS LAL",
    "eKU3 PLUS ANeLAeME PLUS ENeMIeNUNeNUN OVER NUNePAeSALeSAReSHEeSHE PLUS TUReSHIDeSUMeTAK4eU",
    "eUDeUD PLUS DUdOVER GA2cGABAcGABA CROSSING GABAcGADcGAD OVER GAD GAR OVER GARcGAL",
    "cGAL GAD OVER GAD GAR OVER GARcGALAMcGAMcGANcGAN2cGAN2 TENUdOVER GAN2dCROSSING GAN2cGAR",
    "cGAR3cGASHANcGESHTINcGESHTIN TIMES KUR"]⟩,
  ⟨0x12100, [
    "aCUNEIFORM SIGN GIcGI TIMES EeUdCROSSING GIcGI4cGI4 OVER GI4dCROSSING GI4cGIDIMcGIR2",
    "cGIR2 GUNUcGIR3cGIR3 TIMES A PLUS IGIeGAN2 TENUeIGIeLU PLUS IGIePAcGISALcGISH",
    "cGISH CROSSING GISHdTIMES BADeTAK4dTENUcGUcGU CROSSING GUcGU2cGU2 TIMES KAK",
    "eKAK TIMES IGI GUNUeNUNeSAL PLUS TUG2dGUNUcGUDcGUD TIMES A PLUS KUReKURdOVER GUD LUGALcGUL",
    "cGUMcGUM TIMES SHEcGURcGUR7cGURUNcGURUSHcHAcHA TENUdGUNUcHALcHIcHI TIMES ASHeASH2eBADeDISH",
    "eGADeKINeNUNeSHEeUcHUcHUB2cHUB2 TIMES ANeHALeKASKALeLISHeUDcHUL2cIcI AcIBcIDIM",
    "cIDIM OVER IDIM BURfSQUAREDcIGcIGIcIGI DIBdRIdOVER IGI SHIR OVER SHIR UD OVER UDdGUNUcIL",
    "cIL TIMES GAN2 TENUcIL2cIMcIM TIMES TAK4dCROSSING IMdOPPOSING IMdSQUAREDcIMINcINcIRcISHcKA",
    "cKA TIMES AeADeAD PLUS KU3eASH2eBADeBALAGeBAReBIeERIN2eESH2eGAeGALeGAN2 TENUeGAR",
    "eGAR PLUS SHA3 PLUS AeGIeGIR2eGISH PLUS SARfCROSSING GISHeGUeGUR7eIGIeIMeKAKeKIeKIDeLIeLU",
    "eMEeME PLUS DUgGIgTEeMIeMI PLUS NUNUZeNEeNUNePIeRUeSAeSAReSHAeSHEeSHIDeSHUeSIGeSUHUReTAReU",
    "eU2eUDeUMUM TIMES PAeUSHeZIcKA2cKA2 CROSSING KA2cKABcKAD2cKAD3cKAD4cKAD5cKAD5 OVER KAD5cKAK",
    "cKAK TIMES IGI GUNUcKALcKAL TIMES BADdCROSSING KALcKAM2cKAM4cKASKAL",
    "cKASKAL LAGAB TIMES U OVER LAGAB TIMES UdOVER KASKAL LAGAB TIMES U OVER LAGAB TIMES UcKESH2",
    "cKIcKI TIMES BADeUeUDcKIDcKINcKISALcKISHcKISIM5cKISIM5 OVER KISIM5cKU",
    "cKU OVER HI TIMES ASH2 KU OVER HI TIMES ASH2cKU3cKU4cKU4 VARIANT FORMcKU7cKULcKUL GUNUcKUN",
    "cKURcKUR OPPOSING KURcKUSHU2cKWU318cLAcLAGABcLAGAB TIMES AeA PLUS DA PLUS HAgGARgLALeALeAN",
    "eASH ZIDA TENUeBADeBIeDAReENeGAeGAReGUDeGUD PLUS GUDeHAeHALeHI TIMES NUNeIGI GUNUeIM",
    "eIM PLUS HAgLUeKIeKINeKU3eKULeKUL PLUS HI PLUS AeLAGABeLISHeLUeLULeMEeME PLUS ENeMUSHeNE",
    "eSHE PLUS SUMeSHITA PLUS GISH PLUS ERIN2hTENUeSHU2eSHU2 PLUS SHU2eSUMeTAGeTAK4",
    "eTE PLUS A PLUS SU PLUS NAeUeU PLUS AgU PLUS UeU2 PLUS ASHeUDeUSHdSQUAREDcLAGAR",
    "cLAGAR TIMES SHEeSHE PLUS SUMdGUNUdGUNU OVER LAGAR GUNU SHEcLAHSHUcLALcLAL TIMES LALcLAM",
    "cLAM TIMES KUReKUR PLUS RUcLIcLILcLIMMU2cLISHcLUcLU TIMES BADcLU2cLU2 TIMES ALeBAD"]⟩,
  ⟨0x12200, [
    "aCUNEIFORM SIGN LU2 TIMES ESH2eESH2 TENUeGAN2 TENUeHI TIMES BADeIMeKAD2eKAD3eKAD3 PLUS ASH",
    "eKIeLA PLUS ASHeLAGABeME PLUS ENeNEeNUeSI PLUS ASHeSIK2 PLUS BUeTUG2dTENUdCROSSING LU2",
    "dOPPOSING LU2dSQUAREDdSHESHIGcLU3cLUGALcLUGAL OVER LUGALdOPPOSING LUGALdSHESHIGcLUHcLULcLUM",
    "cLUM OVER LUMeLUM GAR OVER GARcMAcMA TIMES TAK4dGUNUcMA2cMAHcMARcMASHcMASH2cMEcMEScMIcMIN",
    "cMUcMU OVER MUcMUGcMUG GUNUcMUNSUBcMURGU2cMUSHcMUSH TIMES AeKUReZAdOVER MUSH",
    "eMUSH TIMES A PLUS NAdCROSSING MUSHcMUSH3cMUSH3 TIMES AeA PLUS DIeDIdGUNUcNAcNA2cNAGA",
    "cNAGA INVERTEDdTIMES SHU TENUdOPPOSING NAGAcNAGARcNAM NUTILLUcNAMcNAM2cNEcNE TIMES AeUD",
    "dSHESHIGcNIcNI TIMES EcNI2cNIMcNIM TIMES GAN2 TENUeGAR PLUS GAN2 TENUcNINDA2",
    "cNINDA2 TIMES ANeASHeASH PLUS ASHeGUDeME PLUS GAN2 TENUeNEeNUNeSHEeSHE PLUS A ANgASH",
    "gASH PLUS ASHeU2 PLUS ASHeUSHcNISAGcNUcNU11cNUNcNUN LAGAR TIMES GARfMASHfSAL",
    "fSAL OVER NUN LAGAR TIMES SALfUSHdTENUdOVER NUNdCROSSING NUNeNUN LAGAR OVER LAGARcNUNUZ",
    "cNUNUZ AB2 TIMES ASHGABfBIfDUGfGUDfIGI GUNUfKAD3fLAfNEfSILA3fU2dKISIM5 TIMES BIfBI UcPAcPAD",
    "cPANcPAPcPESH2cPIcPI TIMES AeABeBIeBUeEeIeIBeUeU2dCROSSING PIcPIRIGcPIRIG TIMES KALeUDeZA",
    "dOPPOSING PIRIGcRAcRABcRIcRUcSAcSAG NUTILLUcSAGcSAG TIMES AeDUeDUBeHAeKAKeKUReLUMeMIeNUN",
    "eSALeSHIDeTABeU2eUBeUMeUReUSHdOVER SAGdGUNUcSALcSAL LAGAB TIMES ASH2cSANGA2cSARcSHAcSHA3",
    "cSHA3 TIMES AeBADeGISHeNEeSHU2eTUReUeU PLUS AcSHA6cSHAB6cSHAR2cSHEcSHE HU",
    "dOVER SHE GAD OVER GAD GAR OVER GARfTAB OVER TAB GAR OVER GARcSHEG9cSHENcSHESHcSHESH2",
    "cSHESHLAMcSHIDcSHID TIMES AeIMcSHIMcSHIM TIMES AeBALeBULUGeDINeGAReIGIeIGI GUNUeKUSHU2eLUL",
    "eMUGeSALcSHINIGcSHIRcSHIR TENUdOVER SHIR BUR OVER BURcSHITAcSHUcSHU OVER INVERTED SHUcSHU2",
    "cSHUBURcSIcSI GUNUcSIGcSIG4cSIG4 OVER SIG4 SHU2cSIK2cSILA3cSUcSU OVER SUcSUDcSUD2cSUHURcSUM",
    "cSUMASHcSURcSUR9cTAcTA ASTERISKdTIMES HIeMIdGUNUcTABcTAB OVER TAB NI OVER NI DISH OVER DISH",
    "dSQUAREDcTAGcTAG TIMES BIeGUDeSHEeSHUeTUG2eUDcTAK4cTARcTEcTE GUNUcTIcTI TENU"]⟩,
  ⟨0x12300, [
    "aCUNEIFORM SIGN TILcTIRcTIR TIMES TAK4dOVER TIReTIR GAD OVER GAD GAR OVER GARcTUcTUG2cTUK",
    "cTUMcTURcTUR OVER TUR ZA OVER ZAcUcU GUDdU UdOVER U PA OVER PA GAR OVER GARfSUR OVER SUR",
    "fU REVERSED OVER U REVERSEDcU2cUBcUDcUD KUSHU2dTIMES BADeMIeU PLUS U PLUS UiU GUNUdGUNU",
    "dSHESHIGdSHESHIG TIMES BADcUDUGcUMcUM TIMES LAGABeME PLUS DAeSHA3eUcUMBINcUMUM",
    "cUMUM TIMES KASKALePAcUNcUN GUNUcURcUR CROSSING URdSHESHIGcUR2cUR2 TIMES A PLUS HAgNAeALeHA",
    "eNUNeU2eU2 PLUS ASHgBIcUR4cURIcURI3cURUcURU TIMES AeASHGABeBAReDUNeGAeGALeGAN2 TENUeGAReGU",
    "eHAeIGIeIMeISHeKIeLUMeMINePAeSHEeSIG4eTUeU PLUS GUDeUDeURUDAcURUDAcURUDA TIMES UcUSH",
    "cUSH TIMES AeKUeKUReTAK4cUSHXcUSH2cUSHUMXcUTUKIcUZ3cUZ3 TIMES KASKALcUZUcZAcZA TENU",
    "dSQUARED TIMES KURcZAGcZAMXcZE2cZIcZI OVER ZIcZI3cZIBcZIB KABA TENUcZIGcZIZ2cZUcZU5",
    "cZU5 TIMES AcZUBURcZUMcKAP ELAMITEcAB TIMES NUNcAB2 TIMES AcAMAR TIMES KUG",
    "cDAG KISIM5 TIMES U2 PLUS MASHcDAG3cDISH PLUS SHUcDUB TIMES SHEcEZEN TIMES GUDeSHE",
    "cGA2 TIMES AN PLUS KAK PLUS AeASH2cGE22cGIGcHUSHcKA TIMES ANSHEeASH3eGISHeGUDeHI TIMES ASH2",
    "eLUMePAeSHULeTUeUR2cLAGAB TIMES GIcLU2 SHESHIG TIMES BADdTIMES ESH2 PLUS LALeSHUcMESH",
    "cMUSH3 TIMES ZAcNA4cNINcNIN9cNINDA2 TIMES BALeGIcNU11 ROTATED NINETY DEGREEScPESH2 ASTERISK",
    "cPIR2cSAG TIMES IGI GUNUcTI2cUM TIMES MEcU U"]⟩,
  ⟨0x12400, [
    "aCUNEIFORM NUMERIC SIGN TWO ASHdTHREE ASHdFOUR ASHdFIVE ASHdSIX ASHdSEVEN ASHdEIGHT ASH",
    "dNINE ASHdTHREE DISHdFOUR DISHdFIVE DISHdSIX DISHdSEVEN DISHdEIGHT DISHdNINE DISHdFOUR U",
    "dFIVE UdSIX UdSEVEN UdEIGHT UdNINE UdONE GESH2dTWO GESH2dTHREE GESH2dFOUR GESH2dFIVE GESH2",
    "dSIX GESH2dSEVEN GESH2dEIGHT GESH2dNINE GESH2dONE GESHUdTWO GESHUdTHREE GESHUdFOUR GESHU",
    "dFIVE GESHUdTWO SHAR2dTHREE SHAR2eSHAR2 VARIANT FORMdFOUR SHAR2dFIVE SHAR2dSIX SHAR2",
    "dSEVEN SHAR2dEIGHT SHAR2dNINE SHAR2dONE SHARUdTWO SHARUdTHREE SHARUeSHARU VARIANT FORM",
    "dFOUR SHARUdFIVE SHARUdSHAR2 TIMES GAL PLUS DISHhMINdONE BURUdTWO BURUdTHREE BURU",
    "eBURU VARIANT FORMdFOUR BURUdFIVE BURUdTHREE VARIANT FORM ESH16gESH21",
    "dFOUR VARIANT FORM LIMMUgLIMMU4gLIMMU AhBdSIX VARIANT FORM ASH9dSEVEN VARIANT FORM IMIN3",
    "gIMIN AhBdEIGHT VARIANT FORM USSUgUSSU3dNINE VARIANT FORM ILIMMUgILIMMU3gILIMMU4gILIMMU A",
    "dTWO ASH TENUdTHREE ASH TENUdFOUR ASH TENUdFIVE ASH TENUdSIX ASH TENUdONE BAN2dTWO BAN2",
    "dTHREE BAN2dFOUR BAN2eBAN2 VARIANT FORMdFIVE BAN2eBAN2 VARIANT FORMdNIGIDAMINdNIGIDAESH",
    "dONE ESHE3dTWO ESHE3dONE THIRD DISHdTWO THIRDS DISHdFIVE SIXTHS DISH",
    "dONE THIRD VARIANT FORM AdTWO THIRDS VARIANT FORM AdONE EIGHTH ASHeQUARTER ASH",
    "dOLD ASSYRIAN ONE SIXTHgQUARTERdONE QUARTER GUReHALF GURdELAMITE ONE THIRDeTWO THIRDSeFORTY",
    "eFIFTYdFOUR U VARIANT FORMdFIVE U VARIANT FORMdSIX U VARIANT FORMdSEVEN U VARIANT FORM",
    "dEIGHT U VARIANT FORMdNINE U VARIANT FORM.bPUNCTUATION SIGN OLD ASSYRIAN WORD DIVIDER",
    "dVERTICAL COLONdDIAGONAL COLONeTRICOLONeQUADCOLON...........bSIGN AB TIMES NUN TENUeSHU2",
    "cAD TIMES ESH2cBAD TIMES DISH TENUcBAHAR2 TIMES AB2eNIeZAcBU OVER BU TIMES NA2",
    "cDA TIMES TAK4cDAG TIMES KURcDIM TIMES IGIeU U UcDIM2 TIMES UDcDUG TIMES ANSHEeASH",
    "eASH AT LEFTeDINeDUNeERIN2eGAeGIeGIR2 GUNUeGISHeHAeHIeIGI GUNUeKASKALeKUReKUSHU2",
    "eKUSHU2 PLUS KASKALeLAK-020eLAMeLAM TIMES KUReLUH PLUS GISHeMASHeMESeMIeNIePIeSHEeSI GUNU",
    "cE2 TIMES KURePAPcERIN2 XcESH2 CROSSING ESH2cEZEN SHESHIG TIMES ASHfHIfIGI GUNUfLAfLALfME",
    "fMESfSUdTIMES SUcGA2 TIMES BAHAR2eDIM GUNUeDUG TIMES IGI GUNUgKASKALeERENeGAeGAR PLUS DIgNE",
    "eHA PLUS AeKUSHU2 PLUS KASKALeLAMeLAM TIMES KUReLUHeMUSHeNEeNE PLUS E2gGIeSHIMeZIZ2",
    "cGABA ROTATED NINETY DEGREEScGESHTIN TIMES UcGISH TIMES GISH CROSSING GISH",
    "cGU2 TIMES IGI GUNUcGUD PLUS GISH TIMES TAK4cHA TENU GUNUcHI TIMES ASH OVER HI TIMES ASH",
    "cKA TIMES BUeKAeU U UeURcLAGAB TIMES ZU OVER ZUcLAK-003d021d025d030d050d051d062",
    "d079 OVER LAK-079 GUNUd080d081 OVER LAK-081d092d130d142d210d219d220d225d228d238d265d266d343",
    "d347d348d383d384d390d441d449d449 TIMES GUfIGIfPAP PLUS LU3hPAP PLUS LU3fU2 PLUS BAd450d457",
    "d470d483d490d492d493d495d550"]⟩,
  ⟨0x12500, [
    "aCUNEIFORM SIGN LAK-608d617d617 TIMES ASHfBADfDUN3 GUNU GUNUfKU3fLAfTARfTEfU2fUDfURUDAd636",
    "d648d648 TIMES DUBfGAfIGIfIGI GUNUfNIfPAP PLUS PAP PLUS LU3fSHESH PLUS KIfUDfURUDAd724d749",
    "cLU2 GUNU TIMES ASHdTIMES DISHeHALePAPePAP PLUS PAP PLUS LU3eTAK4cMI PLUS ZA7",
    "cMUSH OVER MUSH TIMES GAgKAKcNINDA2 TIMES DIM GUNUeGISHeGULeHIeKESH2eLAK-050eMASH",
    "ePAP PLUS PAPeUeU PLUS UeURUDAcSAG GUNU TIMES HAdTIMES ENeSHE AT LEFTeTAK4cSHA6 TENU",
    "cSHE OVER SHEdPLUS HUB2eNAM2eSARcSHU2 PLUS DUG TIMES NIeE2 TIMES ANcSI TIMES TAK4",
    "cTAK4 PLUS SAGcTUM TIMES GAN2 TENUeTHREE DISHcUR2 INVERTEDdTIMES UDcURU TIMES DARA3eLAK-668",
    "eLU3cZA7cZU OVER ZU PLUS SARcZU5 TIMES THREE DISH TENU"]⟩,
  ⟨0x12F90, [
    "aCYPRO-MINOAN SIGN CM001dCM002dCM004dCM005dCM006dCM007dCM008dCM009dCM010dCM011dCM012dCM012B",
    "dCM013dCM015dCM017dCM019dCM021dCM023dCM024dCM025dCM026dCM027dCM028dCM029dCM030dCM033dCM034",
    "dCM035dCM036dCM037dCM038dCM039dCM040dCM041dCM044dCM046dCM047dCM049dCM050dCM051dCM052dCM053",
    "dCM054dCM055dCM056dCM058dCM059dCM060dCM061dCM062dCM063dCM064dCM066dCM067dCM068dCM069dCM070",
    "dCM071dCM072dCM073dCM074dCM075dCM075BdCM076dCM078dCM079dCM080dCM081dCM082dCM083dCM084dCM085",
    "dCM086dCM087dCM088dCM089dCM090dCM091dCM092dCM094dCM095dCM096dCM097dCM098dCM099dCM100dCM101",
    "dCM102dCM103dCM104dCM105dCM107dCM108dCM109dCM110dCM112dCM114dCM301dCM302"]⟩,
  ⟨0x13000, [
    "aEGYPTIAN HIEROGLYPH A001cA002cA003cA004cA005cA005AcA006cA006AcA006BcA007cA008cA009cA010",
    "cA011cA012cA013cA014cA014AcA015cA016cA017cA017AcA018cA019cA020cA021cA022cA023cA024cA025",
    "cA026cA027cA028cA029cA030cA031cA032cA032AcA033cA034cA035cA036cA037cA038cA039cA040cA040A",
    "cA041cA042cA042AcA043cA043AcA044cA045cA045AcA046cA047cA048cA049cA050cA051cA052cA053cA054",
    "cA055cA056cA057cA058cA059cA060cA061cA062cA063cA064cA065cA066cA067cA068cA069cA070cB001cB002",
    "cB003cB004cB005cB005AcB006cB007cB008cB009cC001cC002cC002AcC002BcC002CcC003cC004cC005cC006",
    "cC007cC008cC009cC010cC010AcC011cC012cC013cC014cC015cC016cC017cC018cC019cC020cC021cC022cC023",
    "cC024cD001cD002cD003cD004cD005cD006cD007cD008cD008AcD009cD010cD011cD012cD013cD014cD015cD016",
    "cD017cD018cD019cD020cD021cD022cD023cD024cD025cD026cD027cD027AcD028cD029cD030cD031cD031A",
    "cD032cD033cD034cD034AcD035cD036cD037cD038cD039cD040cD041cD042cD043cD044cD045cD046cD046A",
    "cD047cD048cD048AcD049cD050cD050AcD050BcD050CcD050DcD050EcD050FcD050GcD050HcD050IcD051cD052",
    "cD052AcD053cD054cD054AcD055cD056cD057cD058cD059cD060cD061cD062cD063cD064cD065cD066cD067",
    "cD067AcD067BcD067CcD067DcD067EcD067FcD067GcD067HcE001cE002cE003cE004cE005cE006cE007cE008",
    "cE008AcE009cE009AcE010cE011cE012cE013cE014cE015cE016cE016AcE017cE017AcE018cE019cE020cE020A",
    "cE021cE022cE023cE024cE025cE026cE027cE028cE028AcE029cE030cE031cE032cE033cE034cE034AcE036",
    "cE037cE038cF001cF001A"]⟩,
  ⟨0x13100, [
    "aEGYPTIAN HIEROGLYPH F002cF003cF004cF005cF006cF007cF008cF009cF010cF011cF012cF013cF013AcF014",
    "cF015cF016cF017cF018cF019cF020cF021cF021AcF022cF023cF024cF025cF026cF027cF028cF029cF030cF031",
    "cF031AcF032cF033cF034cF035cF036cF037cF037AcF038cF038AcF039cF040cF041cF042cF043cF044cF045",
    "cF045AcF046cF046AcF047cF047AcF048cF049cF050cF051cF051AcF051BcF051CcF052cF053cG001cG002cG003",
    "cG004cG005cG006cG006AcG007cG007AcG007BcG008cG009cG010cG011cG011AcG012cG013cG014cG015cG016",
    "cG017cG018cG019cG020cG020AcG021cG022cG023cG024cG025cG026cG026AcG027cG028cG029cG030cG031",
    "cG032cG033cG034cG035cG036cG036AcG037cG037AcG038cG039cG040cG041cG042cG043cG043AcG044cG045",
    "cG045AcG046cG047cG048cG049cG050cG051cG052cG053cG054cH001cH002cH003cH004cH005cH006cH006A",
    "cH007cH008cI001cI002cI003cI004cI005cI005AcI006cI007cI008cI009cI009AcI010cI010AcI011cI011A",
    "cI012cI013cI014cI015cK001cK002cK003cK004cK005cK006cK007cK008cL001cL002cL002AcL003cL004cL005",
    "cL006cL006AcL007cL008cM001cM001AcM001BcM002cM003cM003AcM004cM005cM006cM007cM008cM009cM010",
    "cM010AcM011cM012cM012AcM012BcM012CcM012DcM012EcM012FcM012GcM012HcM013cM014cM015cM015AcM016",
    "cM016AcM017cM017AcM018cM019cM020cM021cM022cM022AcM023cM024cM024AcM025cM026cM027cM028cM028A",
    "cM029cM030cM031cM031AcM032cM033cM033AcM033BcM034cM035cM036cM037cM038cM039cM040cM040AcM041",
    "cM042cM043cM044cN001cN002cN003cN004cN005cN006cN007cN008cN009cN010cN011cN012cN013cN014cN015",
    "cN016cN017"]⟩,
  ⟨0x13200, [
    "aEGYPTIAN HIEROGLYPH N018cN018AcN018BcN019cN020cN021cN022cN023cN024cN025cN025AcN026cN027",
    "cN028cN029cN030cN031cN032cN033cN033AcN034cN034AcN035cN035AcN036cN037cN037AcN038cN039cN040",
    "cN041cN042cNL001cNL002cNL003cNL004cNL005cNL005AcNL006cNL007cNL008cNL009cNL010cNL011cNL012",
    "cNL013cNL014cNL015cNL016cNL017cNL017AcNL018cNL019cNL020cNU001cNU002cNU003cNU004cNU005cNU006",
    "cNU007cNU008cNU009cNU010cNU010AcNU011cNU011AcNU012cNU013cNU014cNU015cNU016cNU017cNU018",
    "cNU018AcNU019cNU020cNU021cNU022cNU022AcO001cO001AcO002cO003cO004cO005cO005AcO006cO006A",
    "cO006BcO006CcO006DcO006EcO006FcO007cO008cO009cO010cO010AcO010BcO010CcO011cO012cO013cO014",
    "cO015cO016cO017cO018cO019cO019AcO020cO020AcO021cO022cO023cO024cO024AcO025cO025AcO026cO027",
    "cO028cO029cO029AcO030cO030AcO031cO032cO033cO033AcO034cO035cO036cO036AcO036BcO036CcO036D",
    "cO037cO038cO039cO040cO041cO042cO043cO044cO045cO046cO047cO048cO049cO050cO050AcO050BcO051",
    "cP001cP001AcP002cP003cP003AcP004cP005cP006cP007cP008cP009cP010cP011cQ001cQ002cQ003cQ004",
    "cQ005cQ006cQ007cR001cR002cR002AcR003cR003AcR003BcR004cR005cR006cR007cR008cR009cR010cR010A",
    "cR011cR012cR013cR014cR015cR016cR016AcR017cR018cR019cR020cR021cR022cR023cR024cR025cR026cR027",
    "cR028cR029cS001cS002cS002AcS003cS004cS005cS006cS006AcS007cS008cS009cS010cS011cS012cS013",
    "cS014cS014AcS014BcS015cS016cS017cS017AcS018cS019cS020cS021cS022cS023cS024cS025cS026cS026A",
    "cS026BcS027cS028cS029cS030cS031cS032cS033cS034cS035cS035AcS036cS037cS038cS039"]⟩,
  ⟨0x13300, [
    "aEGYPTIAN HIEROGLYPH S040cS041cS042cS043cS044cS045cS046cT001cT002cT003cT003AcT004cT005cT006",
    "cT007cT007AcT008cT008AcT009cT009AcT010cT011cT011AcT012cT013cT014cT015cT016cT016AcT017cT018",
    "cT019cT020cT021cT022cT023cT024cT025cT026cT027cT028cT029cT030cT031cT032cT032AcT033cT033A",
    "cT034cT035cT036cU001cU002cU003cU004cU005cU006cU006AcU006BcU007cU008cU009cU010cU011cU012",
    "cU013cU014cU015cU016cU017cU018cU019cU020cU021cU022cU023cU023AcU024cU025cU026cU027cU028cU029",
    "cU029AcU030cU031cU032cU032AcU033cU034cU035cU036cU037cU038cU039cU040cU041cU042cV001cV001A",
    "cV001BcV001CcV001DcV001EcV001FcV001GcV001HcV001IcV002cV002AcV003cV004cV005cV006cV007cV007A",
    "cV007BcV008cV009cV010cV011cV011AcV011BcV011CcV012cV012AcV012BcV013cV014cV015cV016cV017cV018",
    "cV019cV020cV020AcV020BcV020CcV020DcV020EcV020FcV020GcV020HcV020IcV020JcV020KcV020LcV021",
    "cV022cV023cV023AcV024cV025cV026cV027cV028cV028AcV029cV029AcV030cV030AcV031cV031AcV032cV033",
    "cV033AcV034cV035cV036cV037cV037AcV038cV039cV040cV040AcW001cW002cW003cW003AcW004cW005cW006",
    "cW007cW008cW009cW009AcW010cW010AcW011cW012cW013cW014cW014AcW015cW016cW017cW017AcW018cW018A",
    "cW019cW020cW021cW022cW023cW024cW024AcW025cX001cX002cX003cX004cX004AcX004BcX005cX006cX006A",
    "cX007cX008cX008AcY001cY001AcY002cY003cY004cY005cY006cY007cY008cZ001cZ002cZ002AcZ002BcZ002C",
    "cZ002DcZ003cZ003AcZ003BcZ004cZ004AcZ005cZ005AcZ006cZ007cZ008cZ009cZ010cZ011cZ012cZ013cZ014",
    "cZ015cZ015AcZ015BcZ015CcZ015DcZ015E"]⟩,
  ⟨0x13400, [
    "aEGYPTIAN HIEROGLYPH Z015FcZ015GcZ015HcZ015IcZ016cZ016AcZ016BcZ016CcZ016DcZ016EcZ016FcZ016G",
    "cZ016HcAA001cAA002cAA003cAA004cAA005cAA006cAA007cAA007AcAA007BcAA008cAA009cAA010cAA011",
    "cAA012cAA013cAA014cAA015cAA016cAA017cAA018cAA019cAA020cAA021cAA022cAA023cAA024cAA025cAA026",
    "cAA027cAA028cAA029cAA030cAA031cAA032.cVERTICAL JOINERcHORIZONTAL JOINERcINSERT AT TOP START",
    "eBOTTOM STARTeTOP ENDeBOTTOM ENDcOVERLAY MIDDLEcBEGIN SEGMENTcEND SEGMENT"]⟩,
  ⟨0x14400, [
    "aANATOLIAN HIEROGLYPH A001cA002cA003cA004cA005cA006cA007cA008cA009cA010cA010AcA011cA012",
    "cA013cA014cA015cA016cA017cA018cA019cA020cA021cA022cA023cA024cA025cA026cA026AcA027cA028cA029",
    "cA030cA031cA032cA033cA034cA035cA036cA037cA038cA039cA039AcA040cA041cA041AcA042cA043cA044",
    "cA045cA045AcA046cA046AcA046BcA047cA048cA049cA050cA051cA052cA053cA054cA055cA056cA057cA058",
    "cA059cA060cA061cA062cA063cA064cA065cA066cA066AcA066BcA066CcA067cA068cA069cA070cA071cA072",
    "cA073cA074cA075cA076cA077cA078cA079cA080cA081cA082cA083cA084cA085cA086cA087cA088cA089cA090",
    "cA091cA092cA093cA094cA095cA096cA097cA097AcA098cA098AcA099cA100cA100AcA101cA101AcA102cA102A",
    "cA103cA104cA104AcA104BcA104CcA105cA105AcA105BcA106cA107cA107AcA107BcA107CcA108cA109cA110",
    "cA110AcA110BcA111cA112cA113cA114cA115cA115AcA116cA117cA118cA119cA120cA121cA122cA123cA124",
    "cA125cA125AcA126cA127cA128cA129cA130cA131cA132cA133cA134cA135cA135AcA136cA137cA138cA139",
    "cA140cA141cA142cA143cA144cA145cA146cA147cA148cA149cA150cA151cA152cA153cA154cA155cA156cA157",
    "cA158cA159cA160cA161cA162cA163cA164cA165cA166cA167cA168cA169cA170cA171cA172cA173cA174cA175",
    "cA176cA177cA178cA179cA180cA181cA182cA183cA184cA185cA186cA187cA188cA189cA190cA191cA192cA193",
    "cA194cA195cA196cA197cA198cA199cA200cA201cA202cA202AcA202BcA203cA204cA205cA206cA207cA207A",
    "cA208cA209cA209AcA210cA211cA212cA213cA214cA215cA215AcA216cA216AcA217cA218cA219cA220cA221",
    "cA222"]⟩,
  ⟨0x14500, [
    "aANATOLIAN HIEROGLYPH A223cA224cA225cA226cA227cA227AcA228cA229cA230cA231cA232cA233cA234",
    "cA235cA236cA237cA238cA239cA240cA241cA242cA243cA244cA245cA246cA247cA248cA249cA250cA251cA252",
    "cA253cA254cA255cA256cA257cA258cA259cA260cA261cA262cA263cA264cA265cA266cA267cA267AcA268cA269",
    "cA270cA271cA272cA273cA274cA275cA276cA277cA278cA279cA280cA281cA282cA283cA284cA285cA286cA287",
    "cA288cA289cA289AcA290cA291cA292cA293cA294cA294AcA295cA296cA297cA298cA299cA299AcA300cA301",
    "cA302cA303cA304cA305cA306cA307cA308cA309cA309AcA310cA311cA312cA313cA314cA315cA316cA317cA318",
    "cA319cA320cA321cA322cA323cA324cA325cA326cA327cA328cA329cA329AcA330cA331cA332AcA332BcA332C",
    "cA333cA334cA335cA336cA336AcA336BcA336CcA337cA338cA339cA340cA341cA342cA343cA344cA345cA346",
    "cA347cA348cA349cA350cA351cA352cA353cA354cA355cA356cA357cA358cA359cA359AcA360cA361cA362cA363",
    "cA364cA364AcA365cA366cA367cA368cA368AcA369cA370cA371cA371AcA372cA373cA374cA375cA376cA377",
    "cA378cA379cA380cA381cA381AcA382cA383 RA OR RIcA383AcA384cA385cA386cA386AcA387cA388cA389",
    "cA390cA391cA392cA393 EIGHTcA394cA395cA396cA397cA398cA399cA400cA401cA402cA403cA404cA405cA406",
    "cA407cA408cA409cA410 BEGIN LOGOGRAM MARKcA410A END LOGOGRAM MARKcA411cA412cA413cA414cA415",
    "cA416cA417cA418cA419cA420cA421cA422cA423cA424cA425cA426cA427cA428cA429cA430cA431cA432cA433",
    "cA434cA435cA436cA437cA438cA439cA440cA441cA442cA443cA444cA445cA446cA447cA448cA449cA450cA450A",
    "cA451cA452cA453cA454cA455cA456cA457"]⟩,
  ⟨0x14600, [
    "aANATOLIAN HIEROGLYPH A457AcA458cA459cA460cA461cA462cA463cA464cA465cA466cA467cA468cA469",
    "cA470cA471cA472cA473cA474cA475cA476cA477cA478cA479cA480cA481cA482cA483cA484cA485cA486cA487",
    "cA488cA489cA490cA491cA492cA493cA494cA495cA496cA497cA501cA502cA503cA504cA505cA506cA507cA508",
    "cA509cA510cA511cA512cA513cA514cA515cA516cA517cA518cA519cA520cA521cA522cA523cA524cA525cA526",
    "cA527cA528cA529cA530"]⟩,
  ⟨0x16800, [
    "aBAMUM LETTER PHASE-A NGKUE MFONeGBIEE FONePON MFON PIPAEMGBIEEgPIPAEMBAeNAA MFON",
    "eSHUENSHUETeTITA MFONeNZA MFONeSHINDA PA NJIePON PA NJI PIPAEMGBIEEhPIPAEMBAeMAEMBGBIEE",
    "eTU MAEMBAeNGANGUeMAEMVEUXeMANSUAEeMVEUAENGAMeSEUNYAMeNTOQPENeKEUKEUTNDAeNKINDIeSUU",
    "eNGKUENZEUMeLAPAQeLET KUTeNTAP MFAAeMAEKEUPePASHAEeGHEUAERAEePAMSHAEeMON NGGEUAETeNZUN MEUT",
    "eU YUQ NAEeGHEUAEGHEUAEeNTAP NTAAeSISAeMGBASAeMEUNJOMNDEUQeMOOMPUQeKAFAePA LEERAEWA",
    "eNDA LEERAEWAePETeMAEMKPENeNIKAePUPeTUAEPeLUAEPeSONJAMeTEUTEUWENeMAENYIeKETeNDAANGGEUAET",
    "eKUOQeMOOMEUTeSHUMeLOMMAEeFIRIeROMeKPOQeSOQeMAP PIEETeSHIRAEeNTAPeSHOQ NSHUT YUM",
    "eNYIT MONGKEUAEQePAARAEeNKAARAEeUNKNOWNeNGGENeMAESIeNJAMeMBANYIeNYETeTEUAENeSOTePAAMeNSHIEE",
    "eMAEMeNYIeKAQeNSHAeVEEeLUeNENeNAQeMBAQdB NSHUETeTU MAEMGBIEEeSIEEeSET TUeLOM NTEUM",
    "eMBA MAELEEeKIEEMeYEURAEeMBAARAEeKAMePEESHIeYAFU LEERAEWAeLAM NSHUT NYAMeNTIEE SHEUOQ",
    "eNDU NJAAeGHEUGHEUAEMePITeTU NSIEEeSHET NJAQeSHEUAEQTUeMFON TEUAEQeMBIT MBAAKETeNYI NTEUM",
    "eKEUPUQeGHEUGHENeKEUYEUXeLAANAEePARUMeVEUMeNGKINDI MVOPeNGGEU MBUeWUAETeSAKEUAEeTAAMeMEUQ",
    "eNGGUOQeNGGUOQ LARGEeMFIYAQeSUEeMBEURIeMONTIEENeNYAEMAEePUNGAAMeMEUT NGGEETeFEUXeMBUOQeFEE",
    "eKEUAEMeMA NJEUAENAfNJUQAeLETeNGGAAMeNSENeMAeKIQeNGOMdC NGKUE MAEMBAeNZAeYUMeWANGKUOQeNGGEN",
    "eNDEUAEREEeNGKAQeGHARAEeMBEEKEETeGBAYIeNYIR MKPARAQ MEUNeNTU MBITeMBEUMePIRIEENeNDOMBU",
    "eMBAA CABBAGE-TREEeKEUSHEUAEPeGHAPeKEUKAQeYU MUOMAEeNZEUMeMBUEeNSEUAENeMBITeYEUQeKPARAQeKAA",
    "eSEUXeNDIDAeTAASHAEeNJUEQeTITA YUEeSUAETeNGGUAEN NYAMeVEUXeNANSANAQeMA KEUAERIeNTAAeNGGUON",
    "eLAPeMBIRIEENeMGBASAQeNTEUNGBAeTEUTEUXeNGGUMeFUEeNDEUTeNSAeNSHAQeBUNGeVEUAEPENeMBERAEeRU",
    "eNJAEMeLAMeTITUAEPeNSUOT NGOMeNJEEEEeKETeNGGUeMAESIeMBUAEMeLUeKUTeNJAMeNGOMeWUPeNGGUEET",
    "eNSOMeNTENeKUOP NKAARAEeNSUNeNDAMeMA NSIEEeYAAeNDAPeSHUEQeSETFONeMBIeMAEMBAeMBANYIeKEUSEUX",
    "eMBEUXeKEUMeMBAA PICKETeYUWOQeNJEUXeMIEEeMUAEeSHIQeKEN LAWfFATIGUEeNGAQeNAQeLIQePINePENeTET",
    "dD MBUOeWAPeNJIeMFONeNJIEEeLIEEeNJEUTeNSHEEeNGGAAMAEeNYAMeWUAENeNGKUNeSHEEeNGKAPeKEUAETMEUN"]⟩,
  ⟨0x16900, [
    "aBAMUM LETTER PHASE-D TEUTeSHEUAEeNJAPeSUEeKETeYAEMMAEeKUOMeSAPeMFEUTeNDEUXeMALEERIeMEUT",
    "eSEUAEQeYENeNJEUAEMeKEUOT MBUAEeNGKEURIeTUeGHAAeNGKYEEeFEUFEUAETeNDEEeMGBOFUMeLEUAEPeNDON",
    "eMONIeMGBEUNePUUTeMGBIEEeMFOeLUMeNSIEEPeMBAAeKWAETeNYETeTEUAENeSOTeYUWOQeKEUMeRAEMeTEEEE",
    "eNGKEUAEQeMFEUAEeNSIEETeKEUPePIPePEUTAEeNYUEeLETeNGGAAMeMFIEEeNGGWAENeYUOMePAPeYUOPeNDAM",
    "eNTEUMeSUAEeKUNeNGGEUXeNGKIEEeTUOTeMEUNeKUQeNSUMeTEUNeMAENJETeNGGAPeLEUMeNGGUOMeNSHUTeNJUEQ",
    "eGHEUAEeKUeREN OLDeTAEeTOQeNYIeRIIeLEEEEeMEEEEeMeSUUeMUeSHIIeSHEUXeKYEEeNUeSHUeNTEEePEEeNI",
    "eSHOQePUQeMVOPeLOQeREN MUCHeTIeNTUUeMBAA SEVENeSAQeFAAdE NDAPeTOONeMBEUMeLAPeVOMeLOONePAA",
    "eSOMeRAQeNSHUOPeNDUNePUAEeTAMeNGKAeKPEUXeWUOeSEEeNGGEUAETePAAMeTOOeKUOPeLOMeNSHIEEeNGOP",
    "eMAEMeNGKEUXeNGOQeNSHUEeRIMGBAeNJEUXePEEMeSAAeNGGURAEeMGBAeGHEUXeNGKEUAEMeNJAEMLIeMAPeLOOT",
    "eNGGEEEEeNDIQeTAEN NTEUMeSETePUMeNDAA SOFTNESSeNGGUAESHAE NYAMeYIEEeGHEUNeTUAEeYEUAEePO",
    "eTUMAEeKEUAEeSUAENeTEUAEQeVEUAEeWEUXeLAAMePUeTAAQeGHAAMAEeNGEUREUTeSHEUAEQeMGBENeMBEEeNZAQ",
    "eNKOMeGBETeTUMeKUETeYAPeNYI CLEAVEReYITeMFEUQeNDIAQePIEEQeYUEQeLEUAEMeFUEeGBEUXeNGKUPeKET",
    "eMAEeNGKAAMIeGHETeFAeNTUMePEUTeYEUMeNGGEUAEeNYI BETWEENeNZUQePOONeMIEEeFUETeNAEeMUAEeGHEUAE",
    "eFU IeMVIePUAQeNGKUMeKUTePIETeNTAPeYEUAETeNGGUPePA PEOPLEeFU CALLeFOMeNJEEeAeTOQeOeIeLAQ",
    "ePA PLURALeTAAeTAQeNDAA MY HOUSEeSHIQeYEUXeNGUAEeYUAENeYOQ SWIMMINGfCOVEReYUQeYUNeKEUXePEUX",
    "eNJEE EPOCHePUEeWUEeFEEeVEEeLUeMIeREUXeRAEeNGUAETeNGAeSHOeSHOQeFU REMEDYeNAePIeLOQeKOeMEN",
    "eMAeMAQeTEUeKIeMON"]⟩,
  ⟨0x16A00, [
    "aBAMUM LETTER PHASE-E TENeFAQeGHOMdF KAeUeKUeEEeREEeTAEeNYIeLAeRIIeRIEEeMEEEEeTAAeNDAA",
    "eNJAEMeMeSUUeSHIIeSIeSEUXeKYEEeKETeNUAEeNUeNJUAEeYOQeSHUeYAeNSHAePEUXeNTEEeWUEePEEeRUeNI",
    "eREUXeKENeNGKWAENeNGGAeSHOePUAEeFOMeWAeLIeLOQeKOeMBENeRENeMAeMOeMBAAeTETeKPAeSAMBAeVUEQ....",
    "...aMRO LETTER TAcNGIcYOcMIMcBAcDAcAcPHIcKHAIcHAOcDAIcCHUcKEAAEcOLcMAEMcNINcPAcOOcOcROcSHI",
    "cTHEAcEAcWAcEcKOcLANcLAcHAIcRIcTEK.bDIGIT ZEROcONEcTWOcTHREEcFOURcFIVEcSIXcSEVENcEIGHTcNINE",
    "....bDANDAbDOUBLE DANDAaTANGSA LETTER OZcOCcOQcOXcAZcACcAQcAXcVZcVCcVQcVXcEZcECcEQcEXcIZcIC",
    "cIQcIXcUZcUCcUQcUXcAWZcAWCcAWQcAWXcUIZcUICcUIQcUIXcFINAL NGcLONG UEXcSHORT UEZdAWXcUECcUEZ",
    "cUEQcUEXcUIUZcUIUCcUIUQcUIUXcMZcMCcMQcMXcKAcKHAcGAcNGAcSAcYAcWAcPAcNYAcPHAcBAcMAcNAcHAcLA",
    "cHTAcTAcDAcRAcNHAcSHAcCAcTSAcGHAcHTTAcTHAcXAcFAcDHAcCHAcZA.bDIGIT ZEROcONEcTWOcTHREEcFOUR",
    "cFIVEcSIXcSEVENcEIGHTcNINE......aBASSA VAH LETTER ENNIdKAdSEdFAdMBEdYIEdGAHdDHIIdKPAHdJO",
    "dHWAHdWAdZOdGBUdDOdCEdUWUdTOdBAdVUdYEINdPAdWADDAdAdOdOOdUdEEdEdI..cCOMBINING HIGH TONE",
    "dLOW TONEdMID TONEdLOW-MID TONEdHIGH-LOW TONEcFULL STOP"]⟩,
  ⟨0x16B00, [
    "aPAHAWH HMONG VOWEL KEEBdKEEVdKIBdKIVdKAUBdKAUVdKUBdKUVdKEBdKEVdKAIBdKAIVdKOOBdKOOVdKAWB",
    "dKAWVdKUABdKUAVdKOBdKOVdKIABdKIAVdKABdKAVdKWBdKWVdKAABdKAAVcCONSONANT VAUdNTSAUdLAUdHAU",
    "dNLAUdRAUdNKAUdQHAUdYAUdHLAUdMAUdCHAUdNCHAUdHNAUdPLHAUdNTHAUdNAUdAUdXAUdCAUcMARK CIM TUBeSO",
    "eKESeKHAVeSUAMeHOMeTAUMcSIGN VOS THOMeTSHAB CEEBdCIM CHEEMdVOS THIABeFEEMdXYEEM NTXIVeRHO",
    "eTOVeFAIBdVOS SEEVdMEEJ SUABdVOS NRUAdIB YAMdXAUSdCIM TSOV ROG..........cDIGIT ZEROdONEdTWO",
    "dTHREEdFOURdFIVEdSIXdSEVENdEIGHTdNINE.cNUMBER TENSdHUNDREDSdTEN THOUSANDSdMILLIONS",
    "dHUNDRED MILLIONSdTEN BILLIONSdTRILLIONS.cSIGN VOS LUBdXYOOdHLIdTHIRD-STAGE HLIdZWJ THAJ",
    "dHNUBdNQIGdXIABdNTUJdAVdTXHEEJ CEEVdMEEJ TSEEBdTAUdLOSdMUSdCIM HAIS LUS NTOG NTOG",
    "eCUAM TSHOOJeTXWVeTXWV CHWVePUB DAWBeNRES TOS.....cCLAN SIGN TSHEEJeYEEGeLISeLAUJeXYOOJeKOO",
    "eHAWJeMUASeTHOJeTSABePHABeKHABeHAMeVAJeFAJeYAJeTSWBeKWMeVWJ"]⟩,
  ⟨0x16E40, [
    "aMEDEFAIDRIN CAPITAL LETTER MdSdVdWdATIUdZdKPdPdTdGdFdIdKdAdJdEdBdCdUdYUdLdQdHPdNYdXdDdOEdN",
    "dRdOdAIdYbSMALL LETTER MdSdVdWdATIUdZdKPdPdTdGdFdIdKdAdJdEdBdCdUdYUdLdQdHPdNYdXdDdOEdNdRdO",
    "dAIdYbDIGIT ZEROcONEcTWOcTHREEcFOURcFIVEcSIXcSEVENcEIGHTcNINEbNUMBER TENcELEVENcTWELVE",
    "cTHIRTEENcFOURTEENcFIFTEENcSIXTEENcSEVENTEENcEIGHTEENcNINETEENbDIGIT ONE ALTERNATE FORM",
    "cTWO ALTERNATE FORMcTHREE ALTERNATE FORMbCOMMAbFULL STOPbSYMBOL AIVAbEXCLAMATION OH"]⟩,
  ⟨0x16F00, [
    "aMIAO LETTER PAcBAcYI PAcPLAcMAcMHAcARCHAIC MAcFAcVAcVFAcTAcDAcYI TTAdTAcTTAcDDAcNAcNHA",
    "cYI NNAcARCHAIC NAcNNAcNNHAcLAcLYAcLHAcLHYAcTLHAcDLHAcTLHYAcDLHYAcKAcGAcYI KAcQAcQGAcNGA",
    "cNGHAcARCHAIC NGAcHAcXAcGHAcGHHAcTSSAcDZZAcNYAcNYHAcTSHAcDZHAcYI TSHAdDZHAcREFORMED TSHA",
    "cSHAcSSAcZHAcZSHAcTSAcDZAcYI TSAcSAcZAcZSAcZZAcZZSAcARCHAIC ZZAcZZYAcZZSYAcWAcAHcHHAcBRI",
    "cSYIcDZYIcTEcTSEcRTE....bSIGN CONSONANT MODIFIER BARbLETTER NASALIZATIONbSIGN ASPIRATION",
    "cREFORMED VOICINGdASPIRATIONbVOWEL SIGN AdAAdAHHdANdANGdOdOOdWOdWdEdENdENGdOEYdIdIAdIAN",
    "dIANGdIOdIEdIIdIUdINGdUdUAdUANdUANGdUUdUEIdUNGdYdYIdAEdAEEdERRdROUNDED ERRdERdROUNDED ERdAI",
    "dEIdAUdOUdNdNGdUOGdYUIdOGdOERdVWdIGdEAdIONGdUI.......bTONE RIGHTcTOP RIGHTcABOVEcBELOW",
    "bLETTER TONE-2d3d4d5d6d7d8cREFORMED TONE-1e2e4e5e6e8"]⟩,
  ⟨0x16FE0, [
    "aTANGUT ITERATION MARKaNUSHU ITERATION MARKaOLD CHINESE HOOK MARKcITERATION MARK",
    "aKHITAN SMALL SCRIPT FILLER...........aVIETNAMESE ALTERNATE READING MARK CAeNHAY"]⟩,
  ⟨0x18800, [
    "aTANGUT COMPONENT-001c002c003c004c005c006c007c008c009c010c011c012c013c014c015c016c017c018",
    "c019c020c021c022c023c024c025c026c027c028c029c030c031c032c033c034c035c036c037c038c039c040",
    "c041c042c043c044c045c046c047c048c049c050c051c052c053c054c055c056c057c058c059c060c061c062",
    "c063c064c065c066c067c068c069c070c071c072c073c074c075c076c077c078c079c080c081c082c083c084",
    "c085c086c087c088c089c090c091c092c093c094c095c096c097c098c099c100c101c102c103c104c105c106",
    "c107c108c109c110c111c112c113c114c115c116c117c118c119c120c121c122c123c124c125c126c127c128",
    "c129c130c131c132c133c134c135c136c137c138c139c140c141c142c143c144c145c146c147c148c149c150",
    "c151c152c153c154c155c156c157c158c159c160c161c162c163c164c165c166c167c168c169c170c171c172",
    "c173c174c175c176c177c178c179c180c181c182c183c184c185c186c187c188c189c190c191c192c193c194",
    "c195c196c197c198c199c200c201c202c203c204c205c206c207c208c209c210c211c212c213c214c215c216",
    "c217c218c219c220c221c222c223c224c225c226c227c228c229c230c231c232c233c234c235c236c237c238",
    "c239c240c241c242c243c244c245c246c247c248c249c250c251c252c253c254c255c256"]⟩,
  ⟨0x18900, [
    "aTANGUT COMPONENT-257c258c259c260c261c262c263c264c265c266c267c268c269c270c271c272c273c274",
    "c275c276c277c278c279c280c281c282c283c284c285c286c287c288c289c290c291c292c293c294c295c296",
    "c297c298c299c300c301c302c303c304c305c306c307c308c309c310c311c312c313c314c315c316c317c318",
    "c319c320c321c322c323c324c325c326c327c328c329c330c331c332c333c334c335c336c337c338c339c340",
    "c341c342c343c344c345c346c347c348c349c350c351c352c353c354c355c356c357c358c359c360c361c362",
    "c363c364c365c366c367c368c369c370c371c372c373c374c375c376c377c378c379c380c381c382c383c384",
    "c385c386c387c388c389c390c391c392c393c394c395c396c397c398c399c400c401c402c403c404c405c406",
    "c407c408c409c410c411c412c413c414c415c416c417c418c419c420c421c422c423c424c425c426c427c428",
    "c429c430c431c432c433c434c435c436c437c438c439c440c441c442c443c444c445c446c447c448c449c450",
    "c451c452c453c454c455c456c457c458c459c460c461c462c463c464c465c466c467c468c469c470c471c472",
    "c473c474c475c476c477c478c479c480c481c482c483c484c485c486c487c488c489c490c491c492c493c494",
    "c495c496c497c498c499c500c501c502c503c504c505c506c507c508c509c510c511c512"]⟩,
  ⟨0x18A00, [
    "aTANGUT COMPONENT-513c514c515c516c517c518c519c520c521c522c523c524c525c526c527c528c529c530",
    "c531c532c533c534c535c536c537c538c539c540c541c542c543c544c545c546c547c548c549c550c551c552",
    "c553c554c555c556c557c558c559c560c561c562c563c564c565c566c567c568c569c570c571c572c573c574",
    "c575c576c577c578c579c580c581c582c583c584c585c586c587c588c589c590c591c592c593c594c595c596",
    "c597c598c599c600c601c602c603c604c605c606c607c608c609c610c611c612c613c614c615c616c617c618",
    "c619c620c621c622c623c624c625c626c627c628c629c630c631c632c633c634c635c636c637c638c639c640",
    "c641c642c643c644c645c646c647c648c649c650c651c652c653c654c655c656c657c658c659c660c661c662",
    "c663c664c665c666c667c668c669c670c671c672c673c674c675c676c677c678c679c680c681c682c683c684",
    "c685c686c687c688c689c690c691c692c693c694c695c696c697c698c699c700c701c702c703c704c705c706",
    "c707c708c709c710c711c712c713c714c715c716c717c718c719c720c721c722c723c724c725c726c727c728",
    "c729c730c731c732c733c734c735c736c737c738c739c740c741c742c743c744c745c746c747c748c749c750",
    "c751c752c753c754c755c756c757c758c759c760c761c762c763c764c765c766c767c768"]⟩,
  ⟨0x1AFF0, ["aKATAKANA LETTER MINNAN TONE-2e3e4e5.e7e8dNASALIZED TONE-1f2f3f4f5.f7f8"]⟩,
  ⟨0x1B000, [
    "aKATAKANA LETTER ARCHAIC EaHIRAGANA LETTER ARCHAIC YEaHENTAIGANA LETTER A-1d2d3dWOcI-1d2d3",
    "d4cU-1d2d3d4d5cE-2d3d4d5d6cO-1d2d3cKA-1d2d3d4d5d6d7d8d9d10d11dKEcKI-1d2d3d4d5d6d7d8cKU-1d2",
    "d3d4d5d6d7cKE-1d2d3d4d5d6cKO-1d2d3dKIcSA-1d2d3d4d5d6d7d8cSI-1d2d3d4d5d6cSU-1d2d3d4d5d6d7d8",
    "cSE-1d2d3d4d5cSO-1d2d3d4d5d6d7cTA-1d2d3d4cTI-1d2d3d4d5d6d7cTU-1d2d3d4dTOcTE-1d2d3d4d5d6d7d8",
    "d9cTO-1d2d3d4d5d6dRAcNA-1d2d3d4d5d6d7d8d9cNI-1d2d3d4d5d6d7dTEcNU-1d2d3cNE-1d2d3d4d5d6dKO",
    "cNO-1d2d3d4d5cHA-1d2d3d4d5d6d7d8d9d10d11cHI-1d2d3d4d5d6d7cHU-1d2d3cHE-1d2d3d4d5d6d7cHO-1d2",
    "d3d4d5d6d7d8cMA-1d2d3d4d5d6d7cMI-1d2d3d4d5d6d7cMU-1d2d3d4cME-1d2dMAcMO-1d2d3d4d5d6cYA-1d2d3",
    "d4d5dYOcYU-1d2d3d4cYO-1d2d3d4d5d6cRA-1d2d3d4cRI-1d2d3d4d5d6d7cRU-1d2d3d4d5d6cRE-1d2"]⟩,
  ⟨0x1B100, [
    "aHENTAIGANA LETTER RE-3d4cRO-1d2d3d4d5d6cWA-1d2d3d4d5cWI-1d2d3d4d5cWE-1d2d3d4cWO-1d2d3d4d5",
    "d6d7cN-MU-MO-1f2aHIRAGANA LETTER ARCHAIC WUaKATAKANA LETTER ARCHAIC YIdYEdWU"]⟩,
  ⟨0x1B150, ["aHIRAGANA LETTER SMALL WIdWEdWO.................aKATAKANA LETTER SMALL WIdWEdWOdN"]⟩,
  ⟨0x1BC00, [
    "aDUPLOYAN LETTER HcXcPcTcFcKcLcBcDcVcGcRcP NcD ScF NcK McR ScTHcSLOAN DHcDHcKKcSLOAN JcHL",
    "cLHcRHcMcNcJcScM NcN McJ McS JcM WITH DOTcN WITH DOTcJ WITH DOTeDOTS INSIDE AND ABOVE",
    "cS WITH DOTeDOT BELOWcM ScN ScJ ScS ScM N ScN M ScJ M ScS J ScJ S WITH DOTdNdN ScS TdT RdP",
    "dP RcT SdR ScWcWHcW RcS NdMcK R ScG R ScS KdK RcAcSLOAN OWcOAcOcAOUcIcEcIEcSHORT IcUIcEE",
    "cSLOAN EHcROMANIAN IcSLOAN EEcLONG IcYEcUcEUcXWcU NcLONG UcROMANIAN UcUHcSLOAN UcOOHcOWcOU",
    "cWAcWOcWIcWEIcWOWcNASAL UdOdIdAcPERNIN ANdAMcSLOAN ENdANdONcVOCALIC M.....",
    "bAFFIX LEFT HORIZONTAL SECANTcMID HORIZONTAL SECANTcRIGHT HORIZONTAL SECANT",
    "cLOW VERTICAL SECANTcMID VERTICAL SECANTcHIGH VERTICAL SECANTcATTACHED SECANT",
    "dLEFT-TO-RIGHT SECANTdTANGENTdTAILdE HOOKdI HOOKdTANGENT HOOK...cHIGH ACUTEdTIGHT ACUTE",
    "dGRAVEdLONG GRAVEdDOTdCIRCLEdLINEdWAVEdVERTICAL.......cLOW ACUTEdTIGHT ACUTEdGRAVE",
    "dLONG GRAVEdDOTdCIRCLEdLINEdWAVEdVERTICALdARROW..bSIGN O WITH CROSSbTHICK LETTER SELECTOR",
    "bDOUBLE MARKbPUNCTUATION CHINOOK FULL STOPaSHORTHAND FORMAT LETTER OVERLAP",
    "cCONTINUING OVERLAPcDOWN STEPcUP STEP"]⟩,
  ⟨0x1CF00, [
    "aZNAMENNY COMBINING MARK GORAZDO NIZKO S KRYZHEM ON LEFTdNIZKO S KRYZHEM ON LEFT",
    "dTSATA ON LEFTdGORAZDO NIZKO ON LEFTdNIZKO ON LEFTdSREDNE ON LEFTdMALO POVYSHE ON LEFT",
    "dPOVYSHE ON LEFTdVYSOKO ON LEFTdMALO POVYSHE S KHOKHLOM ON LEFTdPOVYSHE S KHOKHLOM ON LEFT",
    "dVYSOKO S KHOKHLOM ON LEFTdGORAZDO NIZKO S KRYZHEM ON RIGHTdNIZKO S KRYZHEM ON RIGHT",
    "dTSATA ON RIGHTdGORAZDO NIZKO ON RIGHTdNIZKO ON RIGHTdSREDNE ON RIGHTdMALO POVYSHE ON RIGHT",
    "dPOVYSHE ON RIGHTdVYSOKO ON RIGHTdMALO POVYSHE S KHOKHLOM ON RIGHT",
    "dPOVYSHE S KHOKHLOM ON RIGHTdVYSOKO S KHOKHLOM ON RIGHTdTSATA S KRYZHEM",
    "dMALO POVYSHE S KRYZHEMdSTRANNO MALO POVYSHEdPOVYSHE S KRYZHEMeSTRANNOdVYSOKO S KRYZHEM",
    "dMALO POVYSHE STRANNOdGORAZDO VYSOKOdZELOdONdRAVNOdTIKHAYAdBORZAYAdUDARKAdPODVERTKAdLOMKA",
    "dKUPNAYAdKACHKAdZEVOKdSKOBAdRAZSEKAdKRYZH ON LEFT..cTONAL RANGE MARK MRACHNOfSVETLO",
    "fTRESVETLOcMARK ZADERZHKAdDEMESTVENNY ZADERZHKAdOTSECHKAdPODCHASHIE",
    "dPODCHASHIE WITH VERTICAL STROKEdCHASHKAdCHASHKA POLNAYAdOBLACHKOdSOROCHYA NOZHKAdTOCHKA",
    "dDVOETOCHIEcATTACHING VERTICAL OMETcMARK CURVED OMETdKRYZHcLOWER TONAL RANGE INDICATOR",
    "bPRIZNAK MODIFIER LEVEL-2e3dDIRECTION FLIPdKRYZHdROG.........bNEUME KRYUKcKRYUK TIKHY",
    "cPARAKLITcDVA V CHELNUcKLYUCHcZANOZHEKcSTOPITSAcSTOPITSA S OCHKOMcPEREVODKA",
    "cPEREVODKA NEPOSTOYANNAYAcSTOPITSA WITH SOROCHYA NOZHKAcCHELYUSTKAcPALKAcZAPYATAYA",
    "cGOLUBCHIK BORZYdTIKHYdMRACHNYdSVETLYdTRESVETLYcVRAKHIYA PROSTAYAdMRACHNAYAdSVETLAYA",
    "dTRESVETLAYAdKLYUCHEVAYA PROSTAYAeMRACHNAYAeSVETLAYAeTRESVETLAYAcDOUBLE ZAPYATAYA",
    "cREVERSED CHELYUSTKAcDERBITSAcKHAMILOcCHASHKAcPODCHASHIEcSKAMEYTSA MRACHNAYAdSVETLAYA",
    "dTRESVETLAYAdTIKHAYAcDEMESTVENNY KLYUCHcSKAMEYTSA KLYUCHEVAYA SVETLAYA",
    "dKLYUCHENEPOSTOYANNAYAdKLYUCHEVAYA TIKHAYAdDVOECHELNAYA PROSTAYAeSVETLAYAeNEPOSTOYANNAYA",
    "eKLYUCHEVAYAcSLOZHITIEcSLOZHITIE S ZAPYATOYdZAKRYTOEdS KRYZHEMcKRYZHcROGcFITAcKOBYLA",
    "cZMEYTSAcSTATYAcSTATYA S ZAPYATOYeKRYZHEMeZAPYATOY I KRYZHEMeKRYZHEM I ZAPYATOYdZAKRYTAYA",
    "dZAKRYTAYA S ZAPYATOYdS ROGOMeDVUMYA ZAPYATYMIeZAPYATOY I PODCHASHIEMcPOLKULIZMY",
    "cSTATYA NEPOSTOYANNAYAcSTRELA PROSTAYAdMRACHNOTIKHAYAdKRYZHEVAYAdPOLUPOVODNAYAdPOVODNAYA",
    "dNEPOSTOYANNAYAdKLYUCHEPOVODNAYAdKLYUCHENEPOSTOYANNAYAdTIKHAYA PUTNAYAdDVOECHELNAYA",
    "dDVOECHELNOKRYZHEVAYAdDVOECHELNOPOVODNAYAdDVOECHELNAYA KLYUCHEVAYA",
    "dDVOECHELNOPOVODNAYA KLYUCHEVAYAdGROMNAYA WITH SINGLE ZAPYATAYA",
    "dGROMOPOVODNAYA WITH SINGLE ZAPYATAYAdGROMNAYAdGROMOPOVODNAYA",
    "dGROMOPOVODNAYA WITH DOUBLE ZAPYATAYAdGROMOKRYZHEVAYAdGROMOKRYZHEVAYA POVODNAYAcMECHIK",
    "cMECHIK POVODNYdKLYUCHEVOYdKLYUCHEPOVODNYdKLYUCHENEPOSTOYANNYcSTRELA TRYASOGLASNAYA",
    "dTRYASOPOVODNAYAdTRYASOSTRELNAYAcOSOKAcOSOKA SVETLAYAdTRESVETLAYAdKRYUKOVAYA SVETLAYA",
    "dKLYUCHEVAYA SVETLAYAeNEPOSTOYANNAYAcSTRELA KRYUKOVAYAdKRYUKOVAYA POVODNAYA",
    "eGROMNAYA WITH SINGLE ZAPYATAYAeGROMOPOVODNAYA WITH SINGLE ZAPYATAYAeGROMNAYA",
    "eGROMOPOVODNAYAeGROMOPOVODNAYA WITH DOUBLE ZAPYATAYAeGROMOKRYZHEVAYA",
    "eGROMOKRYZHEVAYA POVODNAYAeTRYASKAcKUFISMAcOBLAKOcDUDAcNEMKAcPAUK"]⟩]

end LogHarvest.Text.Table
